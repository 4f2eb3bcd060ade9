import MailHost.Proofs.Registry.Writing

/-!
# Registry files edited by hand

What becomes of an addition to a file as somebody left it, and which edits make
no difference to what the file lists.
-/

namespace MailHost

/-!
## Adding to a file that was edited by hand

A line is put at the end of a registry file without a look at how the file
ends.  After a finished line, or one that is blank so far, it is a line of its
own.  After anything else it goes on with the line that is there: a comment
takes it in, and an entry becomes another one.
-/

namespace Text

def finishedLines (text : List Char) : List Char :=
  (text.reverse.dropWhile (· != '\n')).reverse

def openLine (text : List Char) : List Char :=
  (text.reverse.takeWhile (· != '\n')).reverse

theorem finishedLines_append_openLine (text : List Char) :
    finishedLines text ++ openLine text = text := by
  rw [finishedLines, openLine, ← List.reverse_append, List.takeWhile_append_dropWhile,
    List.reverse_reverse]

theorem finishedLines_finished (text : List Char) :
    finishedLines text = [] ∨ (finishedLines text).getLast? = some '\n' := by
  rw [finishedLines, List.getLast?_reverse, List.reverse_eq_nil_iff]
  cases kept : text.reverse.dropWhile (· != '\n') with
  | nil => exact Or.inl rfl
  | cons c rest =>
      have feed : (c != '\n') = false := by
        have head := List.head?_dropWhile_not (· != '\n') text.reverse
        rw [kept] at head
        simpa using head
      exact Or.inr (by simpa using feed)

theorem not_mem_openLine (text : List Char) : '\n' ∉ openLine text := by
  intro member
  rw [openLine, List.mem_reverse] at member
  have kept := List.all_eq_true.mp (@List.all_takeWhile _ (· != '\n') text.reverse) '\n' member
  exact absurd kept (by decide)

end Text

theorem registryEntries_of_blank {line : List Char} (single : '\n' ∉ line)
    (blank : Text.trimStart line = []) : registryEntries line = [] := by
  have trimmed : Text.trim line = [] := by
    rw [Text.trim, blank]
    rfl
  rw [registryEntries_of_line single, if_pos (Or.inl trimmed)]

/-- The entries of a text are those of its finished lines and those of its last line. -/
theorem registryEntries_open (text : List Char) :
    registryEntries text =
      registryEntries (Text.finishedLines text) ++ registryEntries (Text.openLine text) := by
  rw [← registryEntries_append (Text.finishedLines_finished text),
    Text.finishedLines_append_openLine]

/-! ### A name behind a line -/

/-- The entries of a line that a name was put behind: a comment stays one. -/
def continued (line : List Char) (domain : String) : List (List Char) :=
  if (Text.trimStart line).head? = some '#' then []
  else [Text.trimStart line ++ domain.toList]

theorem registryEntries_line_name {line : List Char} {domain : String} (single : '\n' ∉ line)
    (valid : DomainName.isValid domain = true) :
    registryEntries (line ++ domain.toList) = continued line domain := by
  have isEntry := DomainName.isEntry_of_isValid valid
  have visible : ∀ c ∈ domain.toList, Text.isBlank c = false := by
    intro c member
    have named := DomainName.isNameCharacter_of_isValid valid c member
    exact (DomainName.apart_of_isNameCharacter named).1
  have joined : '\n' ∉ line ++ domain.toList := by
    rw [List.mem_append, not_or]
    exact ⟨single, isEntry.single⟩
  rw [registryEntries_of_line joined, Text.trim_append visible isEntry.inked, continued]
  cases start : Text.trimStart line with
  | cons c rest => simp
  | nil => simp [isEntry.inked, isEntry.unmarked]

theorem continued_of_blank {line : List Char} (blank : Text.trimStart line = [])
    (domain : String) : continued line domain = [domain.toList] := by
  rw [continued, blank]
  rfl

/-- Behind the start of a line a name is an entry of its own only if the start is empty. -/
theorem mem_continued_iff {line : List Char} {domain : String} :
    domain ∈ (continued line domain).map String.ofList ↔ Text.trimStart line = [] := by
  rw [continued]
  cases Text.trimStart line with
  | nil => simp
  | cons c rest =>
      have longer : String.ofList (c :: rest ++ domain.toList) ≠ domain := by
        intro same
        have spelled := congrArg String.toList same
        rw [String.toList_ofList] at spelled
        exact absurd (List.append_left_eq_self.mp spelled) (List.cons_ne_nil c rest)
      by_cases marked : c = '#'
      · simp [marked]
      · simpa [marked] using longer.symm

namespace FileRegistry

/-- What a text lists once a name was put at its end: only its last line is read anew. -/
theorem list_of_appendLine_open {registry after : FileRegistry} {text domain : String}
    (readText : registry.tree.readText registry.path = .ok text)
    (valid : DomainName.isValid domain = true)
    (appended : registry.appendLine domain = (.ok (), after)) :
    after.list =
      .ok ((registryEntries (Text.finishedLines text.toList) ++
        continued (Text.openLine text.toList) domain).map String.ofList) := by
  have split : text.toList ++ (domain.toList ++ ['\n']) =
      Text.finishedLines text.toList ++
        (Text.openLine text.toList ++ domain.toList ++ ['\n']) := by
    rw [List.append_assoc, ← List.append_assoc (Text.finishedLines text.toList),
      Text.finishedLines_append_openLine]
  rw [list_of_appendLine readText appended, split,
    registryEntries_append (Text.finishedLines_finished text.toList), registryEntries_concat,
    registryEntries_line_name (Text.not_mem_openLine text.toList) valid]

/--
Registering a domain in a file keeps all entries and puts the domain after
them just when the last line is finished or has nothing but white space, and
only then is the domain contained afterwards.  A last line that is a comment
takes the domain in, and one that is an entry becomes an entry that ends with it.
-/
theorem add_appends_iff_open_line_blank {registry after : FileRegistry} {text domain : String}
    (readText : registry.tree.readText registry.path = .ok text)
    (added : Registry.add registry domain = (.ok (), after)) :
    let finished := registryEntries (Text.finishedLines text.toList)
    let line := Text.openLine text.toList
    Registry.list registry = .ok ((finished ++ registryEntries line).map String.ofList) ∧
    Registry.list after = .ok ((finished ++ continued line domain).map String.ofList) ∧
    (Registry.list after = (Registry.list registry).map (· ++ [domain]) ↔
      Text.trimStart line = []) ∧
    (Registry.contains after domain = .ok true ↔ Text.trimStart line = []) := by
  intro finished line
  have before : Registry.list registry =
      .ok ((finished ++ registryEntries line).map String.ofList) := by
    rw [← registryEntries_open]
    exact list_of_readText readText
  obtain ⟨⟨valid, fresh⟩, appended⟩ := (add_eq_ok_iff before).mp added
  have now : Registry.list after = .ok ((finished ++ continued line domain).map String.ofList) :=
    list_of_appendLine_open readText valid appended
  have earlier : domain ∉ finished.map String.ofList := by
    rw [List.map_append, List.mem_append, not_or] at fresh
    exact fresh.1
  have contained : Registry.contains after domain = .ok true ↔ Text.trimStart line = [] := by
    rw [LawfulRegistry.contains_eq, now, ← @mem_continued_iff line domain]
    simp only [Except.map, Except.ok.injEq, List.contains_iff_mem, List.map_append,
      List.mem_append, earlier, false_or]
  refine ⟨before, now, ⟨?_, ?_⟩, contained⟩
  · intro grown
    refine contained.mp ?_
    rw [LawfulRegistry.contains_eq, grown, before]
    simp [Except.map]
  · intro blank
    rw [now, before, registryEntries_of_blank (Text.not_mem_openLine text.toList) blank,
      continued_of_blank blank]
    simp [Except.map]

def ofText (text : String) : FileRegistry :=
  ⟨"domains.list", (FileTree.empty []).write "domains.list" text.toUTF8⟩

theorem readText_ofText (text : String) :
    (ofText text).tree.readText (ofText text).path = .ok text := by
  have read : ((FileTree.empty []).write "domains.list" text.toUTF8).read "domains.list" =
      .ok text.toUTF8 := by rfl
  exact FileTree.readText_eq_ok_iff.mpr ⟨text.toUTF8, read, fromUTF8?_toUTF8 text⟩

theorem add_appends_iff_open_line_blank_of_padding :
    let text := "# local\nnyble.dev\n  "
    let after := (Registry.add (ofText text) "nove.dev").2
    (ofText text).tree.readText (ofText text).path = .ok text ∧
      Registry.add (ofText text) "nove.dev" = (.ok (), after) ∧
      Text.trimStart (Text.openLine text.toList) = [] ∧
      Registry.list after = (Registry.list (ofText text)).map (· ++ ["nove.dev"]) ∧
      Registry.contains after "nove.dev" = .ok true := by
  have readText := readText_ofText "# local\nnyble.dev\n  "
  have added : Registry.add (ofText "# local\nnyble.dev\n  ") "nove.dev" =
      (.ok (), (Registry.add (ofText "# local\nnyble.dev\n  ") "nove.dev").2) :=
    Prod.ext rfl rfl
  have blank : Text.trimStart (Text.openLine "# local\nnyble.dev\n  ".toList) = [] := by rfl
  obtain ⟨_, _, appends, contains⟩ := add_appends_iff_open_line_blank readText added
  exact ⟨readText, added, blank, appends.mpr blank, contains.mpr blank⟩

/--
Two files whose last line is not finished.  The entry `nove.dev` is no longer
listed once `nyble.dev` was put behind it, and neither domain is contained.
Behind a comment `nyble.dev` is registered without being listed.
-/
theorem add_merges_into_open_line :
    ((Registry.add (ofText "nove.dev") "nyble.dev").1 = .ok () ∧
        Registry.list (ofText "nove.dev") = .ok ["nove.dev"] ∧
        Registry.list (Registry.add (ofText "nove.dev") "nyble.dev").2 =
          .ok ["nove.devnyble.dev"] ∧
        Registry.contains (Registry.add (ofText "nove.dev") "nyble.dev").2 "nyble.dev" =
          .ok false ∧
        Registry.contains (Registry.add (ofText "nove.dev") "nyble.dev").2 "nove.dev" =
          .ok false) ∧
      (Registry.add (ofText "nove.dev\n# end") "nyble.dev").1 = .ok () ∧
        Registry.list (Registry.add (ofText "nove.dev\n# end") "nyble.dev").2 =
          .ok ["nove.dev"] :=
  ⟨⟨rfl, rfl, rfl, rfl, rfl⟩, rfl, rfl⟩

end FileRegistry

/-!
## The layout of registry files

A registry file is read line by line, and of each line only its entry counts.
So texts on either side of a line feed are read by themselves, and neither the
kind of line end nor white space around lines nor lines without an entry make a
difference.  An entry is a text that is read as itself, which makes a file of
entries alone the plainest one that lists them.
-/

namespace Text

/-- What holds of single lines and of a line put before a text holds of all texts. -/
theorem lineInduction {Holds : List Char → Prop}
    (single : ∀ line, '\n' ∉ line → Holds line)
    (cut : ∀ line rest, '\n' ∉ line → Holds rest → Holds (line ++ '\n' :: rest))
    (text : List Char) : Holds text := by
  by_cases broken : '\n' ∈ text
  · obtain ⟨line, rest, whole, unbroken⟩ := List.eq_append_cons_of_mem broken
    have shorter : rest.length < text.length := by
      rw [whole, List.length_append, List.length_cons]
      omega
    rw [whole]
    exact cut line rest unbroken (lineInduction single cut rest)
  · exact single text broken
termination_by text.length

/-- A text with a carriage return put before each line feed. -/
def withReturns (text : List Char) : List Char :=
  text.flatMap fun c => if c = '\n' then ['\r', '\n'] else [c]

theorem withReturns_of_line {line : List Char} (single : '\n' ∉ line) :
    withReturns line = line := by
  induction line with
  | nil => rfl
  | cons c rest ih =>
      rw [List.mem_cons, not_or] at single
      unfold withReturns at ih ⊢
      rw [List.flatMap_cons, if_neg (Ne.symm single.1), ih single.2]
      rfl

theorem withReturns_append_feed {line : List Char} (single : '\n' ∉ line) (rest : List Char) :
    withReturns (line ++ '\n' :: rest) = line ++ '\r' :: '\n' :: withReturns rest := by
  have kept := withReturns_of_line single
  unfold withReturns at kept ⊢
  rw [List.flatMap_append, kept, List.flatMap_cons, if_pos rfl]
  rfl

theorem mem_of_mem_trim {text : List Char} {c : Char} (member : c ∈ trim text) : c ∈ text :=
  (List.dropWhile_suffix isBlank).subset ((trim_opens text).subset member)

end Text

/-! ### Lines that say the same -/

def Padded (core line : List Char) : Prop :=
  ∃ before after, before.all Text.isBlank = true ∧ after.all Text.isBlank = true ∧
    line = before ++ core ++ after

/-- A line without an entry: it is blank, or its first character that is not is a number sign. -/
def Silent (line : List Char) : Prop :=
  Text.trimStart line = [] ∨ (Text.trimStart line).head? = some '#'

/--
Lines laid out in another way: white space around them may come and go, and so
may lines without an entry.
-/
inductive Relaid : List (List Char) → List (List Char) → Prop where
  | empty : Relaid [] []
  | kept {core first second : List Char} {lines others : List (List Char)}
      (padded : Padded core first) (repadded : Padded core second)
      (rest : Relaid lines others) : Relaid (first :: lines) (second :: others)
  | inserted {line : List Char} {lines others : List (List Char)} (silent : Silent line)
      (rest : Relaid lines others) : Relaid lines (line :: others)
  | removed {line : List Char} {lines others : List (List Char)} (silent : Silent line)
      (rest : Relaid lines others) : Relaid (line :: lines) others

theorem Padded.refl (line : List Char) : Padded line line :=
  ⟨[], [], rfl, rfl, (List.append_nil line).symm⟩

theorem Padded.trim_eq {core line : List Char} (padded : Padded core line) :
    Text.trim line = Text.trim core := by
  obtain ⟨before, after, blankBefore, blankAfter, rfl⟩ := padded
  exact Text.trim_pad blankBefore blankAfter core

theorem pieceEntries_of_silent {line : List Char} (silent : Silent line) :
    pieceEntries [line] = [] := by
  rw [pieceEntries_singleton]
  apply if_pos
  obtain ⟨rest, whole⟩ := Text.trim_opens line
  cases start : Text.trim line with
  | nil => exact Or.inl rfl
  | cons c more =>
      rw [Silent, ← whole, start] at silent
      exact Or.inr (silent.resolve_left (List.cons_ne_nil _ _))

/-- Lines laid out in another way have the same entries. -/
theorem Relaid.pieceEntries_eq {lines others : List (List Char)} (relaid : Relaid lines others) :
    pieceEntries others = pieceEntries lines := by
  induction relaid with
  | empty => rfl
  | @kept core first second lines others padded repadded rest ih =>
      rw [pieceEntries_cons second, pieceEntries_cons first, ih, pieceEntries_singleton,
        pieceEntries_singleton, padded.trim_eq, repadded.trim_eq]
  | @inserted line lines others silent rest ih =>
      rw [pieceEntries_cons line, pieceEntries_of_silent silent, ih]
      rfl
  | @removed line lines others silent rest ih =>
      rw [pieceEntries_cons line, pieceEntries_of_silent silent, ih]
      rfl

theorem Relaid.refl (lines : List (List Char)) : Relaid lines lines := by
  induction lines with
  | nil => exact .empty
  | cons line rest ih => exact .kept (.refl line) (.refl line) ih

/-- A carriage return before a line feed is white space at the end of the line. -/
theorem relaid_withReturns (text : List Char) :
    Relaid (text.splitOn '\n') ((Text.withReturns text).splitOn '\n') := by
  induction text using Text.lineInduction with
  | single line single =>
      rw [Text.withReturns_of_line single]
      exact .refl _
  | cut line rest single ih =>
      have returned : '\n' ∉ line ++ ['\r'] := by simpa using single
      have regrouped : line ++ '\r' :: '\n' :: Text.withReturns rest =
          (line ++ ['\r']) ++ '\n' :: Text.withReturns rest := by
        simp
      rw [Text.withReturns_append_feed single, regrouped,
        List.splitOn_append_cons_self_of_not_mem single,
        List.splitOn_append_cons_self_of_not_mem returned]
      exact .kept (.refl line) ⟨[], ['\r'], rfl, by decide, rfl⟩ ih

/-! ### Entries -/

theorem isEntry_of_mem_line {line entry : List Char} (single : '\n' ∉ line)
    (member : entry ∈ registryEntries line) : IsEntry entry := by
  rw [registryEntries_of_line single] at member
  by_cases hidden : Text.trim line = [] ∨ (Text.trim line).head? = some '#'
  · rw [if_pos hidden] at member
    cases member
  · rw [if_neg hidden, List.mem_singleton] at member
    obtain ⟨inked, unmarked⟩ := not_or.mp hidden
    rw [member]
    exact ⟨inked, Text.trim_trim line, fun feed => single (Text.mem_of_mem_trim feed), unmarked⟩

theorem isEntry_of_mem_registryEntries {text entry : List Char}
    (member : entry ∈ registryEntries text) : IsEntry entry := by
  induction text using Text.lineInduction with
  | single line single => exact isEntry_of_mem_line single member
  | cut line rest single ih =>
      rw [registryEntries_cut, List.mem_append] at member
      rcases member with here | later
      · exact isEntry_of_mem_line single here
      · exact ih later

/-- Entries that are written one on each line are read back. -/
theorem registryEntries_written {entries : List (List Char)}
    (each : ∀ entry ∈ entries, IsEntry entry) :
    registryEntries (entries.flatMap fun entry => entry ++ ['\n']) = entries := by
  induction entries with
  | nil => rfl
  | cons entry rest ih =>
      obtain ⟨here, later⟩ := List.forall_mem_cons.mp each
      rw [List.flatMap_cons, List.append_assoc, List.singleton_append, registryEntries_cut,
        here.registryEntries_eq, ih later]
      rfl

/--
A registry lists the entries of its file, and only they are read from a text.
A line feed cuts the text into two that are read by themselves.  With carriage
returns before the line feeds the entries are the same, and so they are in any
text whose lines are laid out in another way.  Each entry is trimmed text on a
line that is no comment, and the entries alone, one on each line, are read back.
-/
theorem only_entries_are_read :
    (∀ (registry : FileRegistry) (text : String),
      registry.tree.readText registry.path = .ok text →
        Registry.list registry = .ok ((registryEntries text.toList).map String.ofList)) ∧
    (∀ before after,
      registryEntries (before ++ '\n' :: after) =
        registryEntries before ++ registryEntries after) ∧
    (∀ text, registryEntries (Text.withReturns text) = registryEntries text) ∧
    (∀ text other : List Char, Relaid (text.splitOn '\n') (other.splitOn '\n') →
      registryEntries other = registryEntries text) ∧
    (∀ text, ∀ entry ∈ registryEntries text, IsEntry entry) ∧
    (∀ text, registryEntries ((registryEntries text).flatMap fun entry => entry ++ ['\n']) =
      registryEntries text) := by
  have relaid : ∀ text other : List Char, Relaid (text.splitOn '\n') (other.splitOn '\n') →
      registryEntries other = registryEntries text := by
    intro text other relaid
    rw [registryEntries_eq_pieceEntries, registryEntries_eq_pieceEntries]
    exact relaid.pieceEntries_eq
  refine ⟨?_, registryEntries_cut, ?_, relaid, ?_, ?_⟩
  · intro registry text read
    exact FileRegistry.list_of_readText read
  · intro text
    exact relaid text _ (relaid_withReturns text)
  · intro text entry member
    exact isEntry_of_mem_registryEntries member
  · intro text
    apply registryEntries_written
    intro entry member
    exact isEntry_of_mem_registryEntries member

/-- A file with comments, blank lines, white space and both kinds of line ends. -/
theorem only_entries_are_read_decorated :
    let plain := "nove.dev\nnyble.dev"
    let decorated := "# local domains\n\n  nove.dev\t\r\n #\nnyble.dev \r"
    let registry := FileRegistry.ofText decorated
    registry.tree.readText registry.path = .ok decorated ∧
      Relaid (plain.toList.splitOn '\n') (decorated.toList.splitOn '\n') ∧
      Registry.list registry = .ok ["nove.dev", "nyble.dev"] := by
  intro plain decorated registry
  have read : registry.tree.readText registry.path = .ok decorated :=
    FileRegistry.readText_ofText decorated
  have lines : plain.toList.splitOn '\n' = ["nove.dev".toList, "nyble.dev".toList] := by
    decide +kernel
  have others : decorated.toList.splitOn '\n' =
      ["# local domains".toList, [], "  nove.dev\t\r".toList, " #".toList,
        "nyble.dev \r".toList] := by
    decide +kernel
  have relaid : Relaid (plain.toList.splitOn '\n') (decorated.toList.splitOn '\n') := by
    rw [lines, others]
    apply Relaid.inserted (Or.inr rfl)
    apply Relaid.inserted (Or.inl rfl)
    apply Relaid.kept (.refl _) ⟨"  ".toList, "\t\r".toList, by decide, by decide, by decide⟩
    apply Relaid.inserted (Or.inr rfl)
    exact .kept (.refl _) ⟨[], " \r".toList, rfl, by decide, by decide⟩ .empty
  refine ⟨read, relaid, ?_⟩
  rw [only_entries_are_read.1 registry decorated read,
    only_entries_are_read.2.2.2.1 plain.toList decorated.toList relaid]
  apply congrArg Except.ok
  decide +kernel

end MailHost
