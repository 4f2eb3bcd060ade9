import Mathlib.Data.List.Induction
import Mathlib.Data.List.Nodup
import MailHost.Proofs.Address
import MailHost.Proofs.Listing

/-!
# How often a domain is listed

The listing puts the three tiers one after the other and takes nothing out.  No
tier repeats a domain as long as the registry does not, but the tiers are not
compared with each other.  So a domain is listed once for each tier that has it.
-/

namespace MailHost

namespace LocalDomains

variable {σ : Type} [Registry σ]

theorem nodup_eraseDups (texts : List String) : texts.eraseDups.Nodup := by
  -- From the end, since the first of equal texts is the one that stays.
  induction texts using List.reverseRecOn with
  | nil => simp
  | append_singleton texts text ih =>
      rw [List.eraseDups_append]
      by_cases known : text ∈ texts
      · simpa [List.removeAll, known] using ih
      · have alone : ([text].removeAll texts).eraseDups = [text] := by
          simp [List.removeAll, known, List.eraseDups_cons]
        rw [alone]
        refine List.nodup_append.mpr ⟨ih, List.nodup_singleton text, ?_⟩
        rintro other member _ last rfl
        rw [List.mem_singleton.mp last] at member
        exact known (List.mem_eraseDups.mp member)

theorem nodup_nameTier (policy : Policy) (resolver : Resolver) :
    (nameTier policy resolver).Nodup := by
  unfold nameTier
  cases resolver.machineName with
  | error cause => exact List.nodup_nil
  | ok name =>
      simp only
      split
      · exact List.nodup_nil
      · exact List.nodup_singleton _

theorem nodup_addressTier (policy : Policy) (resolver : Resolver) (hosts : List String) :
    (addressTier policy resolver hosts).Nodup := by
  unfold addressTier
  split
  · exact List.nodup_nil
  · exact nodup_eraseDups _

/-- Rows without repetitions contain an element once for each row that has it. -/
theorem count_flatten_of_nodup {rows : List (List String)}
    (distinct : ∀ row ∈ rows, row.Nodup) (text : String) :
    rows.flatten.count text = rows.countP (text ∈ ·) := by
  induction rows with
  | nil => rfl
  | cons row rest ih =>
      obtain ⟨here, there⟩ := List.forall_mem_cons.mp distinct
      rw [List.flatten_cons, List.count_append, here.count, ih there, List.countP_cons]
      by_cases member : text ∈ row <;> simp [member, Nat.add_comm]

/--
Where the registry repeats no domain, the listing has a domain once for each
tier that has it, whatever lookups fail.  So it repeats none just if the name of
the machine is not registered, and no address is registered or is that name.
-/
theorem listing_count_eq_tiers {domains : LocalDomains σ} {registered : List String}
    (listed : Registry.list domains.store = .ok registered) (distinct : registered.Nodup)
    (resolver : Resolver) :
    let named := nameTier domains.policy resolver
    let addresses := addressTier domains.policy resolver (registered ++ named)
    let rows := [registered, named, addresses]
    ∃ all, (domains.listing resolver).value = .ok all ∧
      (∀ domain, all.count domain = rows.countP (domain ∈ ·)) ∧
      (all.Nodup ↔ rows.Pairwise List.Disjoint) := by
  intro named addresses rows
  have whole : tiers domains.policy resolver registered = rows.flatten := by
    simp [tiers, rows, named, addresses]
  have apart : ∀ row ∈ rows, row.Nodup := by
    intro row member
    rcases List.mem_cons.mp member with rfl | member
    · exact distinct
    · rcases List.mem_cons.mp member with rfl | member
      · exact nodup_nameTier domains.policy resolver
      · rw [List.mem_singleton.mp member]
        exact nodup_addressTier domains.policy resolver _
  refine ⟨tiers domains.policy resolver registered, ?_, ?_, ?_⟩
  · rw [listing_value, listed]
  · intro domain
    rw [whole, count_flatten_of_nodup apart]
  · rw [whole, List.nodup_flatten]
    exact ⟨And.right, fun disjoint => ⟨apart, disjoint⟩⟩

/-- The machine is at 10.0.0.5, where `Nyble.Dev` is; its name in lower case is a host as well. -/
def nybleMachine : HostTable :=
  ((HostTable.initial.registerHost "Nyble.Dev" (.v4 10 0 0 5) "nyble.dev").registerHost
    "nyble.dev" (.v4 10 0 0 5) "nyble.dev").setLocalHost (some (.v4 10 0 0 5))

def detecting (names : List String) : LocalDomains MemoryRegistry :=
  ofStore ⟨names⟩

theorem listing_count_eq_tiers_own_name :
    let registered := ["nyble.dev", "10.0.0.7"]
    Registry.list (detecting registered).store = .ok registered ∧ registered.Nodup ∧
      ∃ all, ((detecting registered).listing nybleMachine.resolver).value = .ok all ∧
        all.count "nyble.dev" = 2 ∧ all.count "10.0.0.5" = 1 ∧ ¬ all.Nodup := by
  intro registered
  have listed : Registry.list (detecting registered).store = .ok registered := rfl
  have distinct : registered.Nodup := by decide
  obtain ⟨all, found, counts, distinct_iff⟩ :=
    listing_count_eq_tiers listed distinct nybleMachine.resolver
  refine ⟨listed, distinct, all, found, ?_, ?_, ?_⟩
  · rw [counts]
    decide +kernel
  · rw [counts]
    decide +kernel
  · rw [distinct_iff]
    intro disjoint
    have named : "nyble.dev" ∈ nameTier (detecting registered).policy nybleMachine.resolver := by
      decide +kernel
    have apart := List.rel_of_pairwise_cons disjoint (List.mem_cons_self ..)
    exact apart (List.mem_cons_self ..) named

/--
Three hosts whose registry repeats no domain and whose listing does: the name of
the machine is an address, it is registered, or an address is registered.
-/
theorem listing_repeats :
    (([] : List String).Nodup ∧
        ((detecting []).listing HostTable.initial.resolver).value =
          .ok ["127.0.0.1", "127.0.0.1"] ∧
        ¬ ["127.0.0.1", "127.0.0.1"].Nodup) ∧
      (["nyble.dev"].Nodup ∧
        ((detecting ["nyble.dev"]).listing nybleMachine.resolver).value =
          .ok ["nyble.dev", "nyble.dev", "10.0.0.5"] ∧
        ¬ ["nyble.dev", "nyble.dev", "10.0.0.5"].Nodup) ∧
      ["10.0.0.5"].Nodup ∧
        ((detecting ["10.0.0.5"]).listing nybleMachine.resolver).value =
          .ok ["10.0.0.5", "nyble.dev", "10.0.0.5"] ∧
        ¬ ["10.0.0.5", "nyble.dev", "10.0.0.5"].Nodup :=
  ⟨⟨by decide, rfl, by decide⟩, ⟨by decide, rfl, by decide⟩, by decide, rfl, by decide⟩

end LocalDomains

/-!
## One text for each address

What a host lists of addresses are texts, and only their texts are compared.
Since no two addresses have one text, the host lists each address that it finds
once, where it is found first, and takes no two for one.
-/

def Resolver.foundAddresses (resolver : Resolver) (host : String) : List Address :=
  match resolver.addresses host with
  | .error _ => []
  | .ok addresses => addresses

theorem Resolver.addressTexts_eq_map (resolver : Resolver) (host : String) :
    resolver.addressTexts host = (resolver.foundAddresses host).map Address.render := by
  rw [addressTexts, foundAddresses]
  cases resolver.addresses host <;> rfl

/-- Repetitions can be left out before or after a change that keeps different things apart. -/
theorem eraseDups_map {α β : Type} [BEq α] [LawfulBEq α] [BEq β] [LawfulBEq β] {change : α → β}
    (apart : ∀ {first second}, change first = change second → first = second) (values : List α) :
    (values.map change).eraseDups = values.eraseDups.map change := by
  induction values using List.reverseRecOn with
  | nil => rfl
  | append_singleton values value ih =>
      have again : change value ∈ values.map change ↔ value ∈ values := by
        rw [List.mem_map]
        constructor
        · rintro ⟨other, member, same⟩
          exact apart same ▸ member
        · exact fun member => ⟨value, member, rfl⟩
      rw [List.map_append, List.map_singleton, List.eraseDups_append, List.eraseDups_append, ih,
        List.map_append]
      congr 1
      by_cases known : value ∈ values
      · simp [List.removeAll, again, known]
      · simp [List.removeAll, again, known, List.eraseDups_cons]

namespace LocalDomains

theorem addressTier_eq_map (policy : Policy) (resolver : Resolver) (hosts : List String) :
    addressTier policy resolver hosts =
      (if policy.autodetectIp then hosts.flatMap resolver.foundAddresses
        else []).eraseDups.map Address.render := by
  have texts : hosts.flatMap resolver.addressTexts =
      (hosts.flatMap resolver.foundAddresses).map Address.render := by
    rw [List.map_flatMap]
    exact List.flatMap_congr fun host _ => resolver.addressTexts_eq_map host
  rw [addressTier]
  cases policy.autodetectIp with
  | false => rfl
  | true => rw [if_neg (by decide), if_pos rfl, texts, eraseDups_map Address.render_injective]

/--
The addresses that a host lists are those of its domains, each address once and
where it comes first: no two are taken for one, and none is left out.
-/
theorem addresses_listed_once (policy : Policy) (resolver : Resolver) (hosts : List String) :
    let found := if policy.autodetectIp then hosts.flatMap resolver.foundAddresses else []
    let listed := (detectedAddresses policy resolver hosts).value
    listed = found.eraseDups.map Address.render ∧
      (∀ address : Address, listed.count address.render = if address ∈ found then 1 else 0) ∧
      (∀ text, text ∈ listed ↔ ∃ address ∈ found, address.render = text) := by
  intro found listed
  have value : listed = addressTier policy resolver hosts :=
    detectedAddresses_value policy resolver hosts
  have whole : listed = found.eraseDups.map Address.render :=
    value.trans (addressTier_eq_map policy resolver hosts)
  have member : ∀ text, text ∈ listed ↔ ∃ address ∈ found, address.render = text := by
    intro text
    rw [whole, List.mem_map]
    simp only [List.mem_eraseDups]
  refine ⟨whole, ?_, member⟩
  intro address
  have distinct : listed.Nodup := value ▸ nodup_addressTier policy resolver hosts
  have known : address.render ∈ listed ↔ address ∈ found := by
    rw [member]
    constructor
    · rintro ⟨other, there, same⟩
      exact Address.render_injective same ▸ there
    · exact fun there => ⟨address, there, rfl⟩
  rw [distinct.count]
  exact if_congr known rfl rfl

end LocalDomains

end MailHost
