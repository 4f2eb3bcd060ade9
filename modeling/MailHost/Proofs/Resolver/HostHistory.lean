import Mathlib.Data.List.Induction
import Mathlib.Data.List.TakeWhile
import MailHost.Session

/-!
# Host tables and their history

A host table is told one change after the other, and what it knows can be read
off these changes.  The record of a host is that of its last registration, if
no drop came after it.  The table keeps its hosts by age, so that a search from
its start finds the oldest: a host is as old as the registration that brought
it into the table, and a drop ends its age.
-/

namespace MailHost

def HostsRequest.recordFor? (host : String) : HostsRequest → Option HostRecord
  | .register other record => if other = host then some record else none
  | .registerHost other address mailExchanger =>
      if other = host then some ⟨[address], [mailExchanger], []⟩ else none
  | .drop _ => none
  | .setLocalHost _ => none

def HostsRequest.drops (host : String) : HostsRequest → Bool
  | .drop other => other = host
  | _ => false

namespace HostHistory

/-! ## Histories -/

/-- The changes since a host was last dropped, the latest first. -/
def sinceDrop (host : String) (history : List HostsRequest) : List HostsRequest :=
  history.reverse.takeWhile fun change => !change.drops host

/-- The record of the last registration of a host, unless a drop came after it. -/
def record? (host : String) (history : List HostsRequest) : Option HostRecord :=
  (sinceDrop host history).findSome? (·.recordFor? host)

/-- The changes from the registration that brought a host into the table on. -/
def tenure (host : String) (history : List HostsRequest) : List HostsRequest :=
  (sinceDrop host history).reverse.dropWhile fun change => (change.recordFor? host).isNone

/-- How many changes there were from the one that brought a host into the table on. -/
def age (host : String) (history : List HostsRequest) : Nat :=
  (tenure host history).length

theorem sinceDrop_concat (host : String) (history : List HostsRequest) (change : HostsRequest) :
    sinceDrop host (history ++ [change]) =
      if change.drops host then [] else change :: sinceDrop host history := by
  rw [sinceDrop, List.reverse_append, List.reverse_singleton, List.singleton_append,
    List.takeWhile_cons]
  cases change.drops host <;> rfl

theorem record?_concat (host : String) (history : List HostsRequest) (change : HostsRequest) :
    record? host (history ++ [change]) =
      if change.drops host then none
      else (change.recordFor? host).or (record? host history) := by
  rw [record?, sinceDrop_concat]
  cases change.drops host with
  | true => rfl
  | false =>
      simp only [Bool.false_eq_true, if_false, List.findSome?_cons]
      cases change.recordFor? host <;> rfl

theorem tenure_concat (host : String) (history : List HostsRequest) (change : HostsRequest) :
    tenure host (history ++ [change]) =
      if change.drops host then []
      else if tenure host history = [] ∧ change.recordFor? host = none then []
      else tenure host history ++ [change] := by
  rw [tenure, sinceDrop_concat]
  cases change.drops host with
  | true => rfl
  | false =>
      simp only [Bool.false_eq_true, if_false, List.reverse_cons, List.dropWhile_append]
      change (if (tenure host history).isEmpty then _ else tenure host history ++ [change]) = _
      cases tenure host history with
      | nil => cases entered : change.recordFor? host <;> simp [entered]
      | cons first rest => simp

theorem tenure_eq_nil_iff {host : String} {history : List HostsRequest} :
    tenure host history = [] ↔ record? host history = none := by
  rw [tenure, record?, List.dropWhile_eq_nil_iff, List.findSome?_eq_none_iff]
  simp

theorem age_pos_iff {host : String} {history : List HostsRequest} :
    0 < age host history ↔ ∃ record, record? host history = some record := by
  rw [age, List.length_pos_iff, ne_eq, tenure_eq_nil_iff, ← ne_eq, Option.ne_none_iff_exists']

/-- A host that is in the table grows older with each change that does not drop it. -/
theorem age_concat {host : String} {history : List HostsRequest} {change : HostsRequest}
    (present : 0 < age host history) (kept : change.drops host = false) :
    age host (history ++ [change]) = age host history + 1 := by
  have held : tenure host history ≠ [] := List.length_pos_iff.mp present
  rw [age, tenure_concat, kept, if_neg Bool.false_ne_true, if_neg fun gone => held gone.1,
    List.length_append]
  rfl

/-- A host that comes into the table is younger than all others. -/
theorem age_concat_new {host : String} {history : List HostsRequest} {change : HostsRequest}
    {record : HostRecord} (absent : record? host history = none)
    (entered : change.recordFor? host = some record) (kept : change.drops host = false) :
    age host (history ++ [change]) = 1 := by
  rw [age, tenure_concat, kept, if_neg Bool.false_ne_true, if_neg, tenure_eq_nil_iff.mpr absent]
  · rfl
  · rw [entered]
    exact fun missing => absurd missing.2 (Option.some_ne_none record)

end HostHistory

/-! ## Tables -/

namespace HostTable

/-- What a table is told first of all: two addresses that are their own names. -/
def seeds : List HostsRequest :=
  [.register "0.0.0.0" ⟨[.unspecified], [], []⟩, .register "127.0.0.1" ⟨[.loopback], [], []⟩]

/-- The records are those that a history leaves, the hosts from the oldest to the youngest. -/
structure Reflects (records : List (String × HostRecord)) (history : List HostsRequest) :
    Prop where
  current : ∀ host record,
    (host, record) ∈ records ↔ HostHistory.record? host history = some record
  byAge : (records.map Prod.fst).Pairwise fun host other =>
    HostHistory.age other history < HostHistory.age host history

variable {records : List (String × HostRecord)} {history : List HostsRequest}

namespace Reflects

theorem distinct (reflects : Reflects records history) : (records.map Prod.fst).Nodup := by
  refine reflects.byAge.imp ?_
  rintro host other younger rfl
  exact Nat.lt_irrefl _ younger

theorem mem_names_iff (reflects : Reflects records history) {host : String} :
    host ∈ records.map Prod.fst ↔ 0 < HostHistory.age host history := by
  rw [HostHistory.age_pos_iff, List.mem_map]
  constructor
  · rintro ⟨⟨name, record⟩, member, rfl⟩
    exact ⟨record, (reflects.current name record).mp member⟩
  · rintro ⟨record, current⟩
    exact ⟨(host, record), (reflects.current host record).mpr current, rfl⟩

/-- The hosts that a change does not drop stay in the order of their age. -/
theorem byAge_concat (reflects : Reflects records history) {change : HostsRequest}
    {names : List String} (part : names.Sublist (records.map Prod.fst))
    (kept : ∀ name ∈ names, change.drops name = false) :
    names.Pairwise fun host other =>
      HostHistory.age other (history ++ [change]) < HostHistory.age host (history ++ [change]) := by
  have grown : ∀ name ∈ names, HostHistory.age name (history ++ [change]) =
      HostHistory.age name history + 1 := fun name member =>
    HostHistory.age_concat (reflects.mem_names_iff.mp (part.subset member)) (kept name member)
  refine (reflects.byAge.sublist part).imp_of_mem ?_
  intro host other memberHost memberOther older
  rw [grown host memberHost, grown other memberOther]
  exact Nat.succ_lt_succ older

end Reflects

/-! ### Entering -/

theorem map_fst_put (host : String) (record : HostRecord) :
    (put host record records).map Prod.fst =
      if host ∈ records.map Prod.fst then records.map Prod.fst
      else records.map Prod.fst ++ [host] := by
  induction records with
  | nil => rfl
  | cons entry rest ih =>
      rw [put]
      by_cases same : entry.1 = host
      · simp [same]
      · rw [if_neg same, List.map_cons, ih]
        by_cases known : host ∈ rest.map Prod.fst
        · have held : host ∈ (entry :: rest).map Prod.fst := List.mem_cons_of_mem _ known
          rw [if_pos known, if_pos held]
          rfl
        · have unknown : host ∉ (entry :: rest).map Prod.fst := by
            rw [List.map_cons, List.mem_cons, not_or]
            exact ⟨Ne.symm same, known⟩
          rw [if_neg known, if_neg unknown]
          rfl

theorem mem_put_iff (distinct : (records.map Prod.fst).Nodup) (host : String)
    (record : HostRecord) (entry : String × HostRecord) :
    entry ∈ put host record records ↔
      entry = (host, record) ∨ entry.1 ≠ host ∧ entry ∈ records := by
  induction records with
  | nil => simp [put]
  | cons first rest ih =>
      rw [List.map_cons, List.nodup_cons] at distinct
      rw [put]
      by_cases same : first.1 = host
      · -- further on the host does not come again
        have apart : ∀ other ∈ rest, other.1 ≠ host := by
          intro other member sameOther
          rw [same, ← sameOther] at distinct
          exact distinct.1 (List.mem_map_of_mem member)
        rw [if_pos same, List.mem_cons, List.mem_cons]
        constructor
        · rintro (rfl | member)
          · exact Or.inl rfl
          · exact Or.inr ⟨apart entry member, Or.inr member⟩
        · rintro (rfl | ⟨different, rfl | member⟩)
          · exact Or.inl rfl
          · exact absurd same different
          · exact Or.inr member
      · rw [if_neg same, List.mem_cons, List.mem_cons, ih distinct.2]
        constructor
        · rintro (rfl | rfl | ⟨different, member⟩)
          · exact Or.inr ⟨same, Or.inl rfl⟩
          · exact Or.inl rfl
          · exact Or.inr ⟨different, Or.inr member⟩
        · rintro (rfl | ⟨different, rfl | member⟩)
          · exact Or.inr (Or.inl rfl)
          · exact Or.inl rfl
          · exact Or.inr (Or.inr ⟨different, member⟩)

theorem reflects_put (reflects : Reflects records history) {host : String}
    {record : HostRecord} {change : HostsRequest}
    (enters : ∀ name, change.recordFor? name = if host = name then some record else none)
    (keeps : ∀ name, change.drops name = false) :
    Reflects (put host record records) (history ++ [change]) where
  current name held := by
    rw [mem_put_iff reflects.distinct, HostHistory.record?_concat, keeps, enters,
      reflects.current, Prod.mk.injEq]
    by_cases same : host = name
    · simp [same, eq_comm]
    · simp [same, Ne.symm same]
  byAge := by
    rw [map_fst_put]
    have stay := reflects.byAge_concat (List.Sublist.refl _) fun name _ => keeps name
    split
    · exact stay
    · rename_i unknown
      refine List.pairwise_append.mpr ⟨stay, List.pairwise_singleton _ _, ?_⟩
      intro other member newcomer new
      rw [List.mem_singleton.mp new]
      have absent : HostHistory.record? host history = none := by
        rw [← HostHistory.tenure_eq_nil_iff, ← List.length_eq_zero_iff]
        exact Nat.eq_zero_of_not_pos fun present => unknown (reflects.mem_names_iff.mpr present)
      have entered : change.recordFor? host = some record := by rw [enters, if_pos rfl]
      have present := reflects.mem_names_iff.mp member
      rw [HostHistory.age_concat_new absent entered (keeps host),
        HostHistory.age_concat present (keeps other)]
      omega

/-! ### Other changes -/

theorem reflects_drop (reflects : Reflects records history) (host : String) :
    Reflects (records.filter fun entry => entry.1 ≠ host) (history ++ [.drop host]) where
  current name held := by
    rw [List.mem_filter, HostHistory.record?_concat, reflects.current]
    by_cases same : host = name
    · simp [HostsRequest.drops, same]
    · simp [HostsRequest.drops, HostsRequest.recordFor?, same, Ne.symm same]
  byAge := by
    refine reflects.byAge_concat (List.filter_sublist.map Prod.fst) ?_
    intro name member
    obtain ⟨entry, kept, rfl⟩ := List.mem_map.mp member
    have different : entry.1 ≠ host := by simpa using (List.mem_filter.mp kept).2
    simpa [HostsRequest.drops] using Ne.symm different

theorem reflects_setLocalHost (reflects : Reflects records history) (address : Option Address) :
    Reflects records (history ++ [.setLocalHost address]) where
  current name held := by
    rw [HostHistory.record?_concat, reflects.current]
    simp [HostsRequest.drops, HostsRequest.recordFor?]
  byAge := reflects.byAge_concat (List.Sublist.refl _) fun _ _ => rfl

/-- One change keeps a table in step with its history. -/
theorem reflects_change {table : HostTable} (reflects : Reflects table.records history)
    (change : HostsRequest) :
    Reflects (Session.changeHosts table change).records (history ++ [change]) := by
  cases change with
  | register host record =>
      exact reflects_put reflects (fun _ => rfl) fun _ => rfl
  | registerHost host address mailExchanger =>
      exact reflects_put reflects (fun _ => rfl) fun _ => rfl
  | drop host => exact reflects_drop reflects host
  | setLocalHost address => exact reflects_setLocalHost reflects address

theorem reflects_foldl {table : HostTable} (reflects : Reflects table.records history)
    (changes : List HostsRequest) :
    Reflects (changes.foldl Session.changeHosts table).records (history ++ changes) := by
  induction changes generalizing table history with
  | nil => rwa [List.append_nil]
  | cons change rest ih =>
      have next := ih (reflects_change reflects change)
      rwa [List.append_assoc] at next

theorem reflects_initial : Reflects initial.records seeds := by
  have empty : Reflects (HostTable.mk [] none).records [] :=
    ⟨fun _ _ => ⟨nofun, nofun⟩, List.Pairwise.nil⟩
  exact reflects_foldl empty seeds

/-! ### Looking up -/

def recordIn (history : List HostsRequest) (host : String) : Except LookupError HostRecord :=
  match HostHistory.record? host history with
  | some record => .ok record
  | none => .error (.unknownHost host)

theorem record_of_reflects {table : HostTable} (reflects : Reflects table.records history)
    (host : String) : table.record host = recordIn history host := by
  rw [record, recordIn]
  cases found : table.records.find? fun entry => entry.1 = host with
  | some entry =>
      have named : entry.1 = host := by simpa using List.find?_some found
      have current := (reflects.current entry.1 entry.2).mp (List.mem_of_find?_eq_some found)
      rw [← named, current]
  | none =>
      cases current : HostHistory.record? host history with
      | none => rfl
      | some record =>
          have member := (reflects.current host record).mpr current
          exact absurd (decide_eq_true rfl) (List.find?_eq_none.mp found (host, record) member)

def HasAddress (history : List HostsRequest) (address : Address) (host : String) : Prop :=
  ∃ record, HostHistory.record? host history = some record ∧ address ∈ record.addresses

/-- A host has an address, and is older than all others that have it. -/
structure Oldest (history : List HostsRequest) (address : Address) (host : String) : Prop where
  hasAddress : HasAddress history address host
  older : ∀ other, HasAddress history address other → other ≠ host →
    HostHistory.age other history < HostHistory.age host history

theorem Oldest.unique {address : Address} {host other : String}
    (first : Oldest history address host) (second : Oldest history address other) :
    host = other := by
  by_contra different
  have younger := first.older other second.hasAddress (Ne.symm different)
  exact Nat.lt_asymm younger (second.older host first.hasAddress different)

theorem oldest_of_find? (reflects : Reflects records history) {address : Address}
    {entry : String × HostRecord}
    (found : (records.find? fun entry => entry.2.addresses.contains address) = some entry) :
    Oldest history address entry.1 := by
  obtain ⟨holds, before, after, split, others⟩ := List.find?_eq_some_iff_append.mp found
  rw [List.contains_iff_mem] at holds
  have current := (reflects.current entry.1 entry.2).mp (List.mem_of_find?_eq_some found)
  refine ⟨⟨entry.2, current, holds⟩, ?_⟩
  rintro other ⟨record, currentOther, holdsOther⟩ different
  have member := (reflects.current other record).mpr currentOther
  have byAge := reflects.byAge
  rw [split, List.map_append, List.map_cons] at byAge
  rw [split, List.mem_append, List.mem_cons] at member
  rcases member with earlier | rfl | later
  · simpa [holdsOther] using others _ earlier
  · exact absurd rfl different
  · exact (List.pairwise_cons.mp (List.pairwise_append.mp byAge).2.1).1 other
      (List.mem_map_of_mem later)

theorem hostName_cases {table : HostTable} (reflects : Reflects table.records history)
    (address : Address) :
    (∃ host, table.hostName address = .ok host ∧ Oldest history address host) ∨
      table.hostName address = .error (.unmappedAddress address) ∧
        ∀ host, ¬ HasAddress history address host := by
  rw [hostName]
  cases found : table.records.find? fun entry => entry.2.addresses.contains address with
  | some entry => exact Or.inl ⟨entry.1, rfl, oldest_of_find? reflects found⟩
  | none =>
      refine Or.inr ⟨rfl, ?_⟩
      rintro host ⟨record, current, holds⟩
      have member := (reflects.current host record).mpr current
      simpa [holds] using List.find?_eq_none.mp found _ member

theorem hostName_eq_ok_iff {table : HostTable} (reflects : Reflects table.records history)
    {address : Address} {host : String} :
    table.hostName address = .ok host ↔ Oldest history address host := by
  rcases hostName_cases reflects address with ⟨found, answered, oldest⟩ | ⟨answered, nobody⟩
  · rw [answered, Except.ok.injEq]
    constructor
    · rintro rfl
      exact oldest
    · exact oldest.unique
  · rw [answered]
    exact ⟨nofun, fun oldest => absurd oldest.hasAddress (nobody host)⟩

theorem hostName_eq_unmapped_iff {table : HostTable} (reflects : Reflects table.records history)
    {address : Address} :
    table.hostName address = .error (.unmappedAddress address) ↔
      ∀ host, ¬ HasAddress history address host := by
  rcases hostName_cases reflects address with ⟨found, answered, oldest⟩ | ⟨answered, nobody⟩
  · rw [answered]
    exact ⟨nofun, fun nobody => absurd oldest.hasAddress (nobody found)⟩
  · exact ⟨fun _ => nobody, fun _ => answered⟩

/--
Whatever a host table was told, no host is in it twice; the lookups of a host
give what was entered for it last, unless it was dropped after that; and the
name of an address is that of the oldest host with it, if there is one.  So a
name that was found for an address leads back to it.
-/
theorem lookups_follow_history (changes : List HostsRequest) :
    let table := changes.foldl Session.changeHosts .initial
    let history := seeds ++ changes
    (table.records.map Prod.fst).Nodup ∧
    (∀ host,
      table.resolver.addresses host = (recordIn history host).map (·.addresses) ∧
      table.resolver.mailExchangers host = (recordIn history host).map (·.mailExchangers) ∧
      table.resolver.textRecords host = (recordIn history host).map (·.texts)) ∧
    ∀ address,
      (∀ host, table.resolver.hostName address = .ok host ↔ Oldest history address host) ∧
      (table.resolver.hostName address = .error (.unmappedAddress address) ↔
        ∀ host, ¬ HasAddress history address host) ∧
      ∀ host, table.resolver.hostName address = .ok host →
        ∃ addresses, table.resolver.addresses host = .ok addresses ∧ address ∈ addresses := by
  intro table history
  have reflects : Reflects table.records history := reflects_foldl reflects_initial changes
  have recorded := record_of_reflects reflects
  refine ⟨reflects.distinct, ?_, ?_⟩
  · intro host
    rw [← recorded host]
    exact ⟨rfl, rfl, rfl⟩
  · intro address
    refine ⟨fun host => hostName_eq_ok_iff reflects, hostName_eq_unmapped_iff reflects, ?_⟩
    intro host named
    obtain ⟨found, current, holds⟩ := ((hostName_eq_ok_iff reflects).mp named).hasAddress
    refine ⟨found.addresses, ?_, holds⟩
    change (table.record host).map _ = _
    rw [recorded host, recordIn, current]
    rfl

/-- Two hosts share an address; the first is entered again, then dropped, and then returns. -/
def firstReturns : List HostsRequest :=
  [.registerHost "first.example" (.v4 10 1 1 1) "mx.first.example",
    .registerHost "second.example" (.v4 10 1 1 1) "mx.second.example",
    .register "first.example" ⟨[.v4 10 1 1 2, .v4 10 1 1 1], [], []⟩,
    .drop "first.example",
    .registerHost "first.example" (.v4 10 1 1 1) "mx.first.example"]

theorem lookups_follow_history_returned :
    let before := (firstReturns.take 3).foldl Session.changeHosts .initial
    let after := firstReturns.foldl Session.changeHosts .initial
    (before.resolver.hostName (.v4 10 1 1 1) = .ok "first.example" ∧
        Oldest (seeds ++ firstReturns.take 3) (.v4 10 1 1 1) "first.example") ∧
      after.resolver.hostName (.v4 10 1 1 1) = .ok "second.example" ∧
      Oldest (seeds ++ firstReturns) (.v4 10 1 1 1) "second.example" ∧
      ∃ addresses, after.resolver.addresses "second.example" = .ok addresses ∧
        .v4 10 1 1 1 ∈ addresses := by
  intro before after
  have first : before.resolver.hostName (.v4 10 1 1 1) = .ok "first.example" := by rfl
  have second : after.resolver.hostName (.v4 10 1 1 1) = .ok "second.example" := by rfl
  obtain ⟨_, _, earlier⟩ := lookups_follow_history (firstReturns.take 3)
  obtain ⟨_, _, later⟩ := lookups_follow_history firstReturns
  obtain ⟨oldest, _, leadsBack⟩ := later (.v4 10 1 1 1)
  exact ⟨⟨first, ((earlier (.v4 10 1 1 1)).1 _).mp first⟩, second, (oldest _).mp second,
    leadsBack _ second⟩

end HostTable

end MailHost
