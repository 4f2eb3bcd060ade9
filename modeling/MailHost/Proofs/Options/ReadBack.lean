import MailHost.Proofs.Options.Lines

/-!
# Options are read back

Options whose texts fit on lines are read back from any text with their lines,
in any order and with other lines in between.
-/

namespace MailHost

open Outline

namespace Options

/-- Options whose texts fit on lines: they have no white space at their ends and no separators. -/
structure Portable (options : Options) : Prop where
  domain_ne_empty : options.defaultDomain ≠ ""
  domain_trimmed : trimmed options.defaultDomain = options.defaultDomain
  domain_single : '\n' ∉ options.defaultDomain.toList
  names : ∀ name ∈ options.domainNames,
    name ≠ "" ∧ trimmed name = name ∧ ',' ∉ name.toList ∧ '\n' ∉ name.toList

/-- Options of which only some are given; the others have their defaults. -/
def given (options : Options) (keys : List OptionKey) : Options where
  autodetect :=
    if .autodetect ∈ keys then options.autodetect else ({} : Options).autodetect
  autodetectIp :=
    if .autodetectIp ∈ keys then options.autodetectIp else ({} : Options).autodetectIp
  defaultDomain :=
    if .defaultDomain ∈ keys then options.defaultDomain else ({} : Options).defaultDomain
  domainNames :=
    if .domainNames ∈ keys then options.domainNames else ({} : Options).domainNames

theorem given_all (options : Options) {keys : List OptionKey}
    (all : ∀ key : OptionKey, key ∈ keys) : options.given keys = options := by
  simp [given, all]

theorem trim_toList {text : String} (fixed : trimmed text = text) :
    Text.trim text.toList = text.toList := by
  have spelled := congrArg String.toList fixed
  rwa [trimmed, String.toList_ofList] at spelled

theorem toList_ne_nil {text : String} (inked : text ≠ "") : text.toList ≠ [] :=
  fun empty => inked (String.toList_eq_nil_iff.mp empty)

section

variable {options : Options} {word wordIp : String}

/-! ## Values on lines -/

theorem toList_names (options : Options) :
    (OptionKey.domainNames.value options word wordIp).toList =
      [',', ' '].intercalate (options.domainNames.map String.toList) :=
  String.toList_intercalate

theorem names_value (portable : options.Portable) :
    names (OptionKey.domainNames.value options word wordIp) = options.domainNames := by
  have fit : ∀ name ∈ options.domainNames.map String.toList,
      ',' ∉ name ∧ Text.trim name = name ∧ name ≠ [] := by
    intro name member
    obtain ⟨text, among, rfl⟩ := List.mem_map.mp member
    obtain ⟨inked, fixed, single, _⟩ := portable.names text among
    exact ⟨single, trim_toList fixed, toList_ne_nil inked⟩
  change (listed (OptionKey.domainNames.value options word wordIp).toList).map String.ofList = _
  rw [toList_names, listed_intercalate fit, List.map_map]
  simp

theorem single_value (portable : options.Portable) (flag : SpellsFlag word options.autodetect)
    (flagIp : SpellsFlag wordIp options.autodetectIp) (key : OptionKey) :
    '\n' ∉ (key.value options word wordIp).toList := by
  intro member
  cases key with
  | autodetect => exact absurd (flag.bounds _ member).1 (by decide)
  | autodetectIp => exact absurd (flagIp.bounds _ member).1 (by decide)
  | defaultDomain => exact portable.domain_single member
  | domainNames =>
      rw [toList_names] at member
      rcases Text.mem_of_mem_intercalate member with between | ⟨piece, among, inside⟩
      · exact absurd between (by decide)
      · obtain ⟨name, listed, rfl⟩ := List.mem_map.mp among
        exact (portable.names name listed).2.2.2 inside

theorem getLast?_value_ne (portable : options.Portable)
    (flag : SpellsFlag word options.autodetect)
    (flagIp : SpellsFlag wordIp options.autodetectIp) (key : OptionKey) :
    (key.value options word wordIp).toList.getLast? ≠ some '\r' := by
  intro last
  cases key with
  | autodetect => exact absurd (flag.bounds _ (List.mem_of_getLast? last)).1 (by decide)
  | autodetectIp => exact absurd (flagIp.bounds _ (List.mem_of_getLast? last)).1 (by decide)
  | defaultDomain => exact Text.getLast?_ne_return (trim_toList portable.domain_trimmed) last
  | domainNames =>
      rw [toList_names] at last
      by_cases nameless : options.domainNames.map String.toList = []
      · rw [nameless, List.intercalate_nil] at last
        cases last
      · have inked : ∀ piece ∈ options.domainNames.map String.toList, piece ≠ [] := by
          intro piece among
          obtain ⟨name, listed, rfl⟩ := List.mem_map.mp among
          exact toList_ne_nil (portable.names name listed).1
        obtain ⟨piece, among, ends⟩ := Text.getLast?_intercalate [',', ' '] inked nameless
        obtain ⟨name, listed, rfl⟩ := List.mem_map.mp among
        rw [ends] at last
        exact Text.getLast?_ne_return (trim_toList (portable.names name listed).2.1) last

end

end Options

/-! ## Lines together -/

theorem OptionKey.single_line {key : OptionKey} {value : String} (single : '\n' ∉ value.toList) :
    '\n' ∉ key.line value := by
  intro member
  rcases List.mem_append.mp member with inName | inRest
  · exact absurd (OptionKey.letters_of_mem_name inName).1 (by decide)
  · rcases List.mem_cons.mp inRest with space | inValue
    · exact absurd space (by decide)
    · exact single inValue

theorem OptionKey.dropReturn_line {key : OptionKey} {value : String}
    (plainEnd : value.toList.getLast? ≠ some '\r') :
    Text.dropReturn (key.line value) = key.line value := by
  refine if_neg ?_
  intro last
  rw [OptionKey.line, List.getLast?_append, List.getLast?_cons] at last
  cases ends : value.toList.getLast? with
  | none =>
      rw [ends] at last
      cases last
  | some c =>
      rw [ends] at plainEnd last
      exact plainEnd last

/-- The fields with the key of an option are those on its lines. -/
theorem filterMap_fieldAt? (value : OptionKey → String) (keys : List OptionKey)
    (key : OptionKey) :
    (keys.map fun key => key.line (value key)).filterMap (fieldAt? key.name) =
      List.replicate (keys.count key)
        ⟨key.name, if (value key).toList.isEmpty then none else some (value key)⟩ := by
  induction keys with
  | nil => rfl
  | cons first rest ih =>
      rw [List.map_cons, List.filterMap_cons, OptionKey.fieldAt?_line, ih]
      by_cases same : first = key
      · rw [if_pos same, same, List.count_cons_self, List.replicate_succ]
      · rw [if_neg same, List.count_cons_of_ne same]

/-- Lines with some options, each given by a value, and with bystanders among them. -/
structure Mixed (value : OptionKey → String) (keys : List OptionKey) (others : List (List Char))
    (lines : List (List Char)) : Prop where
  order : lines.Perm ((keys.map fun key => key.line (value key)) ++ others)
  bystanders : ∀ line ∈ others, '\n' ∉ line ∧ Bystander line
  single : ∀ key, '\n' ∉ (value key).toList
  plainEnd : ∀ key, (value key).toList.getLast? ≠ some '\r'

namespace Mixed

variable {value : OptionKey → String} {keys : List OptionKey} {others lines : List (List Char)}

theorem mem_cases (mixed : Mixed value keys others lines) {line : List Char}
    (member : line ∈ lines) :
    (∃ key : OptionKey, line = key.line (value key)) ∨ '\n' ∉ line ∧ Bystander line := by
  rcases List.mem_append.mp (mixed.order.mem_iff.mp member) with option | among
  · obtain ⟨key, _, rfl⟩ := List.mem_map.mp option
    exact Or.inl ⟨key, rfl⟩
  · exact Or.inr (mixed.bystanders line among)

theorem single_of_mem (mixed : Mixed value keys others lines) {line : List Char}
    (member : line ∈ lines) : '\n' ∉ line := by
  rcases mixed.mem_cases member with ⟨key, rfl⟩ | ⟨single, _⟩
  · exact OptionKey.single_line (mixed.single key)
  · exact single

theorem flush_of_mem (mixed : Mixed value keys others lines) {line : List Char}
    (member : line ∈ lines) : Flush line ∧ Flush (Text.dropReturn line) := by
  rcases mixed.mem_cases member with ⟨key, rfl⟩ | ⟨_, bystander⟩
  · rw [OptionKey.dropReturn_line (mixed.plainEnd key)]
    exact ⟨Or.inr (key.unindented_line _), Or.inr (key.unindented_line _)⟩
  · exact ⟨bystander.inert.1.flush, bystander.inert.2.flush⟩

theorem fieldAt?_dropReturn (mixed : Mixed value keys others lines) (key : OptionKey)
    {line : List Char} (member : line ∈ lines) :
    fieldAt? key.name (Text.dropReturn line) = fieldAt? key.name line := by
  rcases mixed.mem_cases member with ⟨other, rfl⟩ | ⟨_, bystander⟩
  · rw [OptionKey.dropReturn_line (mixed.plainEnd other)]
  · rw [bystander.inert.1.fieldAt?, bystander.inert.2.fieldAt?]

theorem filterMap_lines (mixed : Mixed value keys others lines) (key : OptionKey) :
    lines.filterMap (fieldAt? key.name) =
      List.replicate (keys.count key)
        ⟨key.name, if (value key).toList.isEmpty then none else some (value key)⟩ := by
  have nothing : others.filterMap (fieldAt? key.name) = [] :=
    List.filterMap_eq_nil_iff.mpr fun line among =>
      (mixed.bystanders line among).2.inert.1.fieldAt? key
  have whole := mixed.order.filterMap (fieldAt? key.name)
  rw [List.filterMap_append, nothing, List.append_nil, filterMap_fieldAt?] at whole
  exact List.perm_replicate.mp whole

/-- A text with such lines is an outline with just the given values. -/
theorem parse_eq_value (mixed : Mixed value keys others lines) {text : String}
    (joined : Text.Joined lines text.toList) :
    ∃ outline, Outline.parse text = .value outline ∧
      ∀ key : OptionKey, outline.value? key.name =
        if key ∈ keys ∧ (value key).toList ≠ [] then some (value key) else none := by
  have single : ∀ line ∈ lines, '\n' ∉ line := fun line member => mixed.single_of_mem member
  have flush : ∀ line ∈ Text.lines text.toList, Flush line :=
    Text.forall_mem_lines_of_joined joined single (Or.inl rfl)
      fun line member => mixed.flush_of_mem member
  refine ⟨_, parse_of_flush flush, fun key => ?_⟩
  rw [value?_eq_head?, Text.filterMap_lines_of_joined joined single rfl
    fun line member => mixed.fieldAt?_dropReturn key member, mixed.filterMap_lines,
    List.head?_replicate]
  by_cases present : key ∈ keys
  · rw [if_neg fun uncounted => List.count_eq_zero.mp uncounted present]
    by_cases blank : (value key).toList = [] <;> simp [present, blank]
  · rw [if_pos (List.count_eq_zero.mpr present), if_neg fun both => present both.1]
    rfl

end Mixed

namespace Options

variable {options : Options} {word wordIp : String}

/-- A flag is read from a word for it, and has its default without a word. -/
theorem readFlag_of_value {outline : Outline} {key word : String} {flag standard : Bool}
    {present : Prop} [Decidable present] (spells : SpellsFlag word flag)
    (value : outline.value? key =
      if present ∧ word.toList ≠ [] then some word else none) :
    readFlag outline key standard = .ok (if present then flag else standard) := by
  have inked := toList_ne_nil spells.ne_empty
  rw [readFlag, value]
  by_cases there : present
  · rw [if_pos ⟨there, inked⟩, if_pos there]
    simp only [flag?_of_spellsFlag spells]
  · rw [if_neg fun both => there both.1, if_neg there]

theorem ofOutline_of_values (portable : options.Portable)
    (flag : SpellsFlag word options.autodetect) (flagIp : SpellsFlag wordIp options.autodetectIp)
    {keys : List OptionKey} {outline : Outline}
    (values : ∀ key : OptionKey, outline.value? key.name =
      if key ∈ keys ∧ (key.value options word wordIp).toList ≠ [] then
        some (key.value options word wordIp)
      else none) :
    ofOutline outline = .ok (options.given keys) := by
  have autodetect : readFlag outline "Autodetect" true = .ok (options.given keys).autodetect :=
    readFlag_of_value flag (values .autodetect)
  have autodetectIp :
      readFlag outline "AutodetectIP" true = .ok (options.given keys).autodetectIp :=
    readFlag_of_value flagIp (values .autodetectIp)
  have defaultDomain : ((outline.value? "DefaultDomain").map trimmed).getD localhost =
      (options.given keys).defaultDomain := by
    have value : outline.value? "DefaultDomain" = _ := values .defaultDomain
    have inked : (OptionKey.defaultDomain.value options word wordIp).toList ≠ [] :=
      toList_ne_nil portable.domain_ne_empty
    have fixed : trimmed (OptionKey.defaultDomain.value options word wordIp) =
        options.defaultDomain := portable.domain_trimmed
    rw [value, given]
    by_cases there : OptionKey.defaultDomain ∈ keys
    · simp [there, inked, fixed]
    · simp [there]
  have domainNames : ((outline.value? "DomainNames").map names).getD [] =
      (options.given keys).domainNames := by
    have value : outline.value? "DomainNames" = _ := values .domainNames
    have read : names (OptionKey.domainNames.value options word wordIp) = options.domainNames :=
      names_value portable
    rw [value, given]
    by_cases there : OptionKey.domainNames ∈ keys
    · -- A row of no names is an empty text, which is no value.
      by_cases blank : (OptionKey.domainNames.value options word wordIp).toList = []
      · have nameless : options.domainNames = [] := by
          rw [← read, names, blank]
          rfl
        simp [blank, nameless]
      · simp [there, blank, read]
    · simp [there]
  rw [ofOutline, autodetect]
  simp only
  rw [autodetectIp]
  simp only [defaultDomain, domainNames]

/--
Options that fit on lines are read from every text with their lines in it, each
flag by any word for it in any letter case: whatever the order of the lines,
whatever line ends, and whatever bystanders there are.  If lines are left out,
just the options on them have their defaults.
-/
theorem options_read_back (portable : options.Portable)
    (flag : SpellsFlag word options.autodetect) (flagIp : SpellsFlag wordIp options.autodetectIp)
    {keys : List OptionKey} {others lines : List (List Char)}
    (bystanders : ∀ line ∈ others, '\n' ∉ line ∧ Bystander line)
    (order : lines.Perm ((keys.map fun key => key.line (key.value options word wordIp)) ++ others))
    {text : String} (joined : Text.Joined lines text.toList) :
    ∃ outline, Outline.parse text = .value outline ∧
      ofOutline outline = .ok (options.given keys) ∧
      ((∀ key : OptionKey, key ∈ keys) → ofOutline outline = .ok options) := by
  have mixed : Mixed (OptionKey.value options word wordIp) keys others lines :=
    { order, bystanders
      single := single_value portable flag flagIp
      plainEnd := getLast?_value_ne portable flag flagIp }
  obtain ⟨outline, parsed, values⟩ := mixed.parse_eq_value joined
  have read := ofOutline_of_values portable flag flagIp values
  refine ⟨outline, parsed, read, ?_⟩
  intro all
  rw [read, options.given_all all]

def shuffled : Options where
  autodetect := false
  defaultDomain := "nyble.dev"
  domainNames := ["Nove.Dev", "größe.dev"]

theorem options_read_back_shuffled :
    let keys : List OptionKey := [.domainNames, .autodetectIp, .defaultDomain, .autodetect]
    let others := ["# hosts", " \t", "Store here.list"].map String.toList
    let lines := ["# hosts", "DomainNames Nove.Dev, größe.dev", " \t", "AutodetectIP YES",
      "Store here.list", "DefaultDomain nyble.dev", "Autodetect nO"].map String.toList
    let text := "# hosts\nDomainNames Nove.Dev, größe.dev\r\n \t\r\nAutodetectIP YES\n" ++
      "Store here.list\r\nDefaultDomain nyble.dev\nAutodetect nO"
    shuffled.Portable ∧ SpellsFlag "nO" shuffled.autodetect ∧
      SpellsFlag "YES" shuffled.autodetectIp ∧ (∀ key : OptionKey, key ∈ keys) ∧
      (∀ line ∈ others, '\n' ∉ line ∧ Bystander line) ∧
      lines.Perm ((keys.map fun key => key.line (key.value shuffled "nO" "YES")) ++ others) ∧
      Text.Joined lines text.toList ∧
      ∃ outline, Outline.parse text = .value outline ∧ ofOutline outline = .ok shuffled := by
  intro keys others lines text
  have portable : shuffled.Portable := by
    constructor <;> decide +kernel
  have flag : SpellsFlag "nO" shuffled.autodetect := ⟨"no", by decide, by decide⟩
  have flagIp : SpellsFlag "YES" shuffled.autodetectIp := ⟨"yes", by decide, by decide⟩
  have all : ∀ key : OptionKey, key ∈ keys := by
    intro key
    cases key <;> decide
  have bystanders : ∀ line ∈ others, '\n' ∉ line ∧ Bystander line := by
    have otherKey : ∀ key : OptionKey,
        (readField (Text.dropReturn "Store here.list".toList)).key ≠ key.name := by
      intro key
      cases key <;> decide +kernel
    intro line member
    simp only [others, List.map_cons, List.map_nil, List.mem_cons, List.not_mem_nil, or_false]
      at member
    rcases member with rfl | rfl | rfl
    · exact ⟨by decide, .comment " hosts".toList⟩
    · exact ⟨by decide, .blank (by decide)⟩
    · exact ⟨by decide, .field (unindented_cons.mpr (by decide)) otherKey⟩
  have order :
      lines.Perm ((keys.map fun key => key.line (key.value shuffled "nO" "YES")) ++ others) := by
    decide +kernel
  have joined : Text.Joined lines text.toList := by
    have spelled : text.toList = "# hosts".toList ++ '\n' ::
        ("DomainNames Nove.Dev, größe.dev".toList ++ '\r' :: '\n' ::
          (" \t".toList ++ '\r' :: '\n' :: ("AutodetectIP YES".toList ++ '\n' ::
            ("Store here.list".toList ++ '\r' :: '\n' ::
              ("DefaultDomain nyble.dev".toList ++ '\n' :: "Autodetect nO".toList))))) := by
      decide +kernel
    rw [spelled]
    exact .feed _ (.returnFeed _ (.returnFeed _ (.feed _ (.returnFeed _ (.feed _ (.last _))))))
  obtain ⟨outline, parsed, _, read⟩ :=
    options_read_back portable flag flagIp bystanders order joined
  exact ⟨portable, flag, flagIp, all, bystanders, order, joined, outline, parsed, read all⟩

end Options

end MailHost
