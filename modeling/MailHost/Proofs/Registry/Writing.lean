import MailHost.Proofs.Demands
import MailHost.Proofs.FileTree
import MailHost.Proofs.Text

/-!
# Reading and writing registries

What can be relied on in any registry, which entries a text lists, and how an
addition to a registry file ends.
-/

namespace MailHost

/-!
## What registries promise

A registry contains what it lists, whether it is kept in memory or in a file.
It appends when whatever it registers becomes the last entry of its list and
the entries before it stay.  A registry in memory always appends.
-/

/-- Registries that contain what they list. -/
class LawfulRegistry (σ : Type) [Registry σ] : Prop where
  contains_eq : ∀ (store : σ) (domain : String),
    Registry.contains store domain = (Registry.list store).map (·.contains domain)

instance : LawfulRegistry MemoryRegistry where
  contains_eq _ _ := rfl

instance : LawfulRegistry FileRegistry where
  contains_eq store domain := by
    change store.contains domain = store.list.map _
    rw [FileRegistry.contains]
    cases store.list <;> rfl

namespace Registry

variable {σ : Type} [Registry σ]

/-- Whatever is registered becomes the last entry, and the entries before it stay. -/
def Appends (store : σ) : Prop :=
  ∀ domain, (Registry.add store domain).1 = .ok () →
    Registry.list (Registry.add store domain).2 =
      (Registry.list store).map (· ++ [domain])

/-- The listed domains; a registry that cannot be read has none to show. -/
def held (store : σ) : List String :=
  (Registry.list store).toOption.getD []

theorem held_of_list {store : σ} {names : List String} (listed : Registry.list store = .ok names) :
    held store = names := by
  rw [held, listed]
  rfl

end Registry

theorem MemoryRegistry.appends (registry : MemoryRegistry) : Registry.Appends registry := by
  intro domain added
  rw [MemoryRegistry.add_value] at added ⊢
  cases refusal : refusal? registry.names domain with
  | some cause => rw [refusal] at added; cases added
  | none => rfl

/-!
## Entries of registry files

A text lists the entries of its lines one after the other, so a line feed cuts
it into two texts that are read by themselves.  A line has at most one entry, and
a text that is trimmed and no comment is an entry as it stands.  Domain names are
such texts: they have no white space, and no number sign.
-/

/-- What the pieces of a text between line feeds list. -/
def pieceEntries (pieces : List (List Char)) : List (List Char) :=
  (pieces.map Text.trim).filter fun line => !line.isEmpty && line.head? != some '#'

theorem pieceEntries_append (before after : List (List Char)) :
    pieceEntries (before ++ after) = pieceEntries before ++ pieceEntries after := by
  simp [pieceEntries]

theorem pieceEntries_cons (piece : List Char) (pieces : List (List Char)) :
    pieceEntries (piece :: pieces) = pieceEntries [piece] ++ pieceEntries pieces :=
  pieceEntries_append [piece] pieces

theorem pieceEntries_singleton (piece : List Char) :
    pieceEntries [piece] =
      if Text.trim piece = [] ∨ (Text.trim piece).head? = some '#' then []
      else [Text.trim piece] := by
  unfold pieceEntries
  cases kept : Text.trim piece with
  | nil => simp [kept]
  | cons c rest => by_cases marked : c = '#' <;> simp [kept, marked]

theorem pieceEntries_ended (pieces : List (List Char)) :
    pieceEntries (Text.ended pieces) = pieceEntries pieces := by
  induction pieces using Text.ended.induct with
  | case1 => rfl
  | case2 last empty =>
      rw [Text.ended, if_pos empty, List.isEmpty_iff.mp empty]
      rfl
  | case3 last inked => rw [Text.ended, if_neg inked]
  | case4 line next rest ih =>
      rw [Text.ended, pieceEntries_cons, pieceEntries_cons line, ih, pieceEntries_singleton,
        pieceEntries_singleton, Text.trim_dropReturn]

theorem registryEntries_eq_pieceEntries (text : List Char) :
    registryEntries text = pieceEntries (text.splitOn '\n') :=
  pieceEntries_ended (text.splitOn '\n')

/-- A line feed cuts a text into two that are read by themselves. -/
theorem registryEntries_cut (before after : List Char) :
    registryEntries (before ++ '\n' :: after) =
      registryEntries before ++ registryEntries after := by
  simp only [registryEntries_eq_pieceEntries, List.splitOn_append_cons_self, pieceEntries_append]

/-- A text without line feeds has at most one entry. -/
theorem registryEntries_of_line {line : List Char} (single : '\n' ∉ line) :
    registryEntries line =
      if Text.trim line = [] ∨ (Text.trim line).head? = some '#' then [] else [Text.trim line] := by
  rw [registryEntries_eq_pieceEntries, List.splitOn_eq_singleton single]
  exact pieceEntries_singleton line

/-- A text that is an entry as it stands. -/
structure IsEntry (text : List Char) : Prop where
  inked : text ≠ []
  trimmed : Text.trim text = text
  single : '\n' ∉ text
  unmarked : text.head? ≠ some '#'

theorem IsEntry.registryEntries_eq {entry : List Char} (isEntry : IsEntry entry) :
    registryEntries entry = [entry] := by
  rw [registryEntries_of_line isEntry.single, isEntry.trimmed]
  exact if_neg (not_or.mpr ⟨isEntry.inked, isEntry.unmarked⟩)

/-! ### Names on lines -/

namespace DomainName

theorem ne_nil_of_isValid {domain : String} (valid : isValid domain = true) :
    domain.toList ≠ [] := by
  intro empty
  rw [isValid, empty] at valid
  exact absurd valid (by decide)

/-- The characters of names are neither white space nor what sets a line apart. -/
theorem apart_of_isNameCharacter {c : Char} (named : isNameCharacter c = true) :
    Text.isBlank c = false ∧ c ≠ '\n' ∧ c ≠ '#' := by
  have bounds := bounds_of_isNameCharacter named
  have elsewhere : ∀ d : Char, d.toNat < 45 ∨ 122 < d.toNat → c ≠ d := by
    intro d outside same
    rw [same] at bounds
    omega
  refine ⟨?_, elsewhere '\n' (by decide), elsewhere '#' (by decide)⟩
  rw [← Bool.not_eq_true]
  intro blank
  have outside := Text.bounds_of_isBlank blank
  omega

theorem isEntry_of_isValid {domain : String} (valid : isValid domain = true) :
    IsEntry domain.toList := by
  have named := isNameCharacter_of_isValid valid
  have apart := fun c member => apart_of_isNameCharacter (named c member)
  constructor
  · exact ne_nil_of_isValid valid
  · exact Text.trim_eq_self fun c member => (apart c member).1
  · exact fun feed => (apart '\n' feed).2.1 rfl
  · exact fun mark => (apart '#' (List.mem_of_head? mark)).2.2 rfl

end DomainName

/-- A domain name that stands alone is its own entry. -/
theorem registryEntries_name {domain : String} (valid : DomainName.isValid domain = true) :
    registryEntries domain.toList = [domain.toList] :=
  (DomainName.isEntry_of_isValid valid).registryEntries_eq

/-- A line feed at the end adds nothing. -/
theorem registryEntries_concat (line : List Char) :
    registryEntries (line ++ ['\n']) = registryEntries line := by
  rw [registryEntries_cut line []]
  exact List.append_nil _

/-- A finished text is read by itself, whatever comes after it. -/
theorem registryEntries_append {text : List Char}
    (finished : text = [] ∨ text.getLast? = some '\n') (rest : List Char) :
    registryEntries (text ++ rest) = registryEntries text ++ registryEntries rest := by
  rcases finished with rfl | ended
  · rfl
  · obtain ⟨before, rfl⟩ := List.getLast?_eq_some_iff.mp ended
    rw [registryEntries_concat, List.append_assoc, List.singleton_append, registryEntries_cut]

/-- A name on a line of its own, at the start or after a finished line, is one more entry. -/
theorem registryEntries_append_line {text : List Char} {domain : String}
    (finished : text = [] ∨ text.getLast? = some '\n')
    (valid : DomainName.isValid domain = true) :
    registryEntries (text ++ (domain.toList ++ ['\n'])) =
      registryEntries text ++ [domain.toList] := by
  rw [registryEntries_append finished, registryEntries_concat, registryEntries_name valid]

/-!
## Writing a registry file

Whether a line can be put into a file depends on the tree alone, and a file
that could be written can be written again.  One that cannot be written lists
nothing.  So an addition ends in one of five ways.  A line after a finished
line is read back as one more entry, and leaves the file finished.
-/

/-! ### Bytes and text -/

theorem toUTF8_of_fromUTF8? {bytes : ByteArray} {text : String}
    (decoded : String.fromUTF8? bytes = some text) : text.toUTF8 = bytes := by
  rw [String.fromUTF8?] at decoded
  split at decoded
  · rw [← Option.some.inj decoded]
    rfl
  · cases decoded

theorem fromUTF8?_toUTF8 (text : String) : String.fromUTF8? text.toUTF8 = some text := by
  rw [String.fromUTF8?]
  split
  · exact congrArg some (String.toByteArray_inj.mp rfl)
  · rename_i invalid
    exact absurd text.isValidUTF8 invalid

/-- What stands before an encoded line is encoded text if the whole is. -/
theorem isValidUTF8_of_append {before : ByteArray} {line : String}
    (whole : (before ++ line.toUTF8).IsValidUTF8) : before.IsValidUTF8 := by
  let text : String := ⟨before ++ line.toUTF8, whole⟩
  let cut : String.Pos.Raw := ⟨before.size⟩
  have size : text.rawEndPos.byteIdx = before.size + line.toUTF8.size := ByteArray.size_append
  have within : cut ≤ text.rawEndPos := by
    rw [String.Pos.Raw.le_iff, size]
    exact Nat.le_add_right ..
  have tail : (text.toByteArray.extract cut.byteIdx text.rawEndPos.byteIdx).IsValidUTF8 := by
    rw [size]
    change ((before ++ line.toUTF8).extract _ _).IsValidUTF8
    rw [ByteArray.extract_append_eq_right rfl rfl]
    exact line.isValidUTF8
  have valid : cut.IsValid text := by
    rcases (String.Pos.Raw.isValidUTF8_extract_iff _ _ within (Nat.le_refl _)).mp tail with
      last | inside
    · rw [last]
      exact String.Pos.Raw.isValid_rawEndPos
    · exact inside.1
  have head : ((before ++ line.toUTF8).extract 0 before.size).IsValidUTF8 :=
    valid.isValidUTF8_extract_zero
  rwa [ByteArray.extract_append_eq_left rfl] at head

theorem fromUTF8?_append {before : ByteArray} {line whole : String}
    (decoded : String.fromUTF8? (before ++ line.toUTF8) = some whole) :
    ∃ text, String.fromUTF8? before = some text ∧ whole = text ++ line := by
  have bytes := toUTF8_of_fromUTF8? decoded
  have encoded : (before ++ line.toUTF8).IsValidUTF8 := by
    rw [← bytes]
    exact whole.isValidUTF8
  have valid := isValidUTF8_of_append encoded
  refine ⟨String.fromUTF8 before valid, dif_pos valid, ?_⟩
  apply String.toByteArray_inj.mp
  rw [String.toByteArray_append]
  exact bytes

theorem fromUTF8?_append_toUTF8 {before : ByteArray} {text : String} (line : String)
    (decoded : String.fromUTF8? before = some text) :
    String.fromUTF8? (before ++ line.toUTF8) = some (text ++ line) := by
  have same : before ++ line.toUTF8 = (text ++ line).toUTF8 := by
    rw [← toUTF8_of_fromUTF8? decoded]
    exact String.toByteArray_append.symm
  rw [same, fromUTF8?_toUTF8]

theorem FileTree.readText_eq_ok_iff {tree : FileTree} {path text : String} :
    tree.readText path = .ok text ↔
      ∃ contents, tree.read path = .ok contents ∧ String.fromUTF8? contents = some text := by
  rw [readText]
  cases read : tree.read path with
  | error cause => simp
  | ok contents => cases decoded : String.fromUTF8? contents <;> simp [decoded]

namespace FileRegistry

/-! ### Reading -/

theorem list_of_readText {registry : FileRegistry} {text : String}
    (read : registry.tree.readText registry.path = .ok text) :
    registry.list = .ok ((registryEntries text.toList).map String.ofList) := by
  rw [list, read]

theorem list_of_missing {registry : FileRegistry}
    (missing : registry.tree.read registry.path = .error .missing) :
    registry.list = .ok [] := by
  rw [list, FileTree.readText, missing]

theorem list_of_refused {registry : FileRegistry}
    (refused : registry.tree.read registry.path = .error .refused) :
    registry.list = .error .unavailable := by
  rw [list, FileTree.readText, refused]

/-- What is listed depends on nothing but what is read at the path. -/
theorem list_of_same_read {registry other : FileRegistry}
    (same : other.tree.read other.path = registry.tree.read registry.path) :
    other.list = registry.list := by
  rw [list, list, FileTree.readText, FileTree.readText, same]

theorem list_eq_unavailable_iff {registry : FileRegistry} :
    registry.list = .error .unavailable ↔
      registry.tree.readText registry.path = .error .refused := by
  rw [list]
  cases registry.tree.readText registry.path with
  | ok text => simp
  | error cause => cases cause <;> simp

theorem list_eq_error {registry : FileRegistry} {cause : RegistryError}
    (unread : registry.list = .error cause) : cause = .unavailable := by
  rw [list] at unread
  split at unread <;> cases unread
  rfl

theorem list_cases {registry : FileRegistry} {names : List String}
    (listed : registry.list = .ok names) :
    (∃ text, registry.tree.readText registry.path = .ok text) ∨
      registry.tree.read registry.path = .error .missing ∧ names = [] := by
  rw [list] at listed
  cases read : registry.tree.readText registry.path with
  | ok text => exact Or.inl ⟨text, rfl⟩
  | error cause =>
      rw [read] at listed
      cases cause with
      | refused => cases listed
      | missing =>
          refine Or.inr ⟨?_, (Except.ok.inj listed).symm⟩
          rw [FileTree.readText] at read
          split at read
          · rename_i cause unread
            rw [unread, Except.error.inj read]
          · split at read <;> cases read

/-! ### Files that can be written -/

/-- The registry once the directories above its file were made, as far as they can be. -/
def prepared (registry : FileRegistry) : FileRegistry :=
  { registry with tree := (registry.tree.makeParents registry.path).2 }

/-- A line can be put at the end of the file. -/
def Writable (registry : FileRegistry) : Prop :=
  (registry.tree.makeParents registry.path).1 = .ok () ∧
    ∃ place, registry.prepared.tree.locate registry.path = .ok place ∧
      registry.prepared.tree.node? place ≠ some .directory

theorem prepared_prepared (registry : FileRegistry) :
    registry.prepared.prepared = registry.prepared := by
  have again := registry.tree.makeParents_again registry.path
  simp only [prepared, again]

theorem writable_prepared_iff {registry : FileRegistry} :
    registry.prepared.Writable ↔ registry.Writable := by
  have again := registry.tree.makeParents_again registry.path
  simp only [Writable, prepared, again]

theorem prepared_of_read {registry : FileRegistry} {contents : ByteArray}
    (read : registry.tree.read registry.path = .ok contents) :
    registry.prepared = registry ∧ registry.Writable := by
  obtain ⟨place, found, node⟩ := FileTree.locate_of_read read
  have nothing := FileTree.makeParents_of_locate found
  have same : registry.prepared = registry := by rw [prepared, nothing]
  refine ⟨same, by rw [nothing], place, by rw [same]; exact found, ?_⟩
  rw [same, node]
  intro directory
  cases directory

/-- If a file can be read as text or is missing, and cannot be written, then it is missing. -/
theorem missing_of_not_writable {registry : FileRegistry} {names : List String}
    (closed : ¬ registry.Writable) (listed : registry.list = .ok names) :
    registry.tree.read registry.path = .error .missing ∧ names = [] := by
  rcases list_cases listed with ⟨text, readText⟩ | missing
  · obtain ⟨contents, read, _⟩ := FileTree.readText_eq_ok_iff.mp readText
    exact absurd (prepared_of_read read).2 closed
  · exact missing

theorem appendLine_of_writable {registry : FileRegistry} (opened : registry.Writable)
    (domain : String) :
    ∃ after : FileRegistry, registry.appendLine domain = (.ok (), after) ∧
      after.tree.read after.path =
        .ok ((registry.prepared.tree.read registry.path).toOption.getD .empty ++
          (domain ++ "\n").toUTF8) := by
  obtain ⟨made, place, found, free⟩ := opened
  obtain ⟨tree, appended, _, read⟩ := FileTree.append_of_locate found free (domain ++ "\n").toUTF8
  have parents : registry.tree.makeParents registry.path = (.ok (), registry.prepared.tree) :=
    Prod.ext made rfl
  refine ⟨{ registry with tree }, ?_, read⟩
  rw [appendLine, parents]
  simp only [appended]

theorem appendLine_of_not_writable {registry : FileRegistry} (closed : ¬ registry.Writable)
    (domain : String) :
    registry.appendLine domain = (.error .unavailable, registry.prepared) := by
  rw [appendLine]
  cases parents : registry.tree.makeParents registry.path with
  | mk result tree =>
      have same : registry.prepared = { registry with tree } := by rw [prepared, parents]
      cases result with
      | error cause => rw [same]
      | ok made =>
          cases appended : tree.append registry.path (domain ++ "\n").toUTF8 with
          | error cause => simp only [appended, same]
          | ok after =>
              obtain ⟨place, found, free⟩ := FileTree.locate_of_append appended
              refine absurd ?_ closed
              exact ⟨by rw [parents], place, by rw [same]; exact found, by rw [same]; exact free⟩

/-! ### Registering -/

theorem add_of_list {registry : FileRegistry} {names : List String}
    (listed : registry.list = .ok names) (domain : String) :
    Registry.add registry domain =
      match refusal? names domain with
      | some cause => (.error cause, registry)
      | none => registry.appendLine domain := by
  change registry.add domain = _
  rw [add, listed, refusal?]
  cases valid : DomainName.isValid domain with
  | false => rfl
  | true => by_cases known : domain ∈ names <;> simp [known]

theorem add_eq_ok_iff {registry after : FileRegistry} {names : List String}
    (listed : registry.list = .ok names) {domain : String} :
    Registry.add registry domain = (.ok (), after) ↔
      (DomainName.isValid domain = true ∧ domain ∉ names) ∧
        registry.appendLine domain = (.ok (), after) := by
  rw [add_of_list listed, ← refusal?_eq_none_iff]
  cases refusal? names domain <;> simp

/-- The result of an addition and the registry it leaves. -/
inductive Ending (registry : FileRegistry) (domain : String) :
    Except RegistryError Unit → FileRegistry → Prop where
  | invalid (invalid : DomainName.isValid domain = false) :
      Ending registry domain (.error (.invalidDomain domain)) registry
  | unread (valid : DomainName.isValid domain = true)
      (unread : registry.list = .error .unavailable) :
      Ending registry domain (.error .unavailable) registry
  | duplicate (valid : DomainName.isValid domain = true) {names : List String}
      (listed : registry.list = .ok names) (known : domain ∈ names) :
      Ending registry domain (.error (.duplicate domain)) registry
  | shut (valid : DomainName.isValid domain = true) {names : List String}
      (listed : registry.list = .ok names) (new : domain ∉ names)
      (shut : ¬ registry.Writable) :
      Ending registry domain (.error .unavailable) registry.prepared
  | done (valid : DomainName.isValid domain = true) {names : List String}
      (listed : registry.list = .ok names) (new : domain ∉ names)
      (opened : registry.Writable) {after : FileRegistry}
      (appended : registry.appendLine domain = (.ok (), after)) :
      Ending registry domain (.ok ()) after

theorem ending_add (registry : FileRegistry) (domain : String) :
    Ending registry domain (Registry.add registry domain).1 (Registry.add registry domain).2 := by
  change Ending registry domain (registry.add domain).1 (registry.add domain).2
  rw [add]
  cases valid : DomainName.isValid domain with
  | false => exact .invalid valid
  | true =>
      cases listed : registry.list with
      | error cause =>
          cases list_eq_error listed
          exact .unread valid listed
      | ok names =>
          by_cases known : domain ∈ names
          · simp only [Bool.not_true, Bool.false_eq_true, if_false,
              if_pos (List.contains_iff_mem.mpr known)]
            exact .duplicate valid listed known
          · have new : ¬ names.contains domain = true := fun held =>
              known (List.contains_iff_mem.mp held)
            simp only [Bool.not_true, Bool.false_eq_true, if_false, if_neg new]
            by_cases opened : registry.Writable
            · obtain ⟨after, appended, _⟩ := appendLine_of_writable opened domain
              rw [appended]
              exact .done valid listed known opened appended
            · rw [appendLine_of_not_writable opened]
              exact .shut valid listed known opened

theorem appendLine_path (registry : FileRegistry) (domain : String) :
    (registry.appendLine domain).2.path = registry.path := by
  rw [appendLine]
  split
  · rfl
  · split <;> rfl

theorem add_path (registry : FileRegistry) (domain : String) :
    (Registry.add registry domain).2.path = registry.path := by
  have ending := registry.ending_add domain
  generalize Registry.add registry domain = ended at ending ⊢
  obtain ⟨result, after⟩ := ended
  cases ending with
  | done valid listed new opened appended =>
      have same := appendLine_path registry domain
      rwa [appended] at same
  | _ => rfl

/-- The text of the file is empty or ends with a finished line. -/
def Finished (registry : FileRegistry) : Prop :=
  ∃ text, registry.tree.readText registry.path = .ok text ∧
    (text.toList = [] ∨ text.toList.getLast? = some '\n')

theorem writable_of_appendLine {registry after : FileRegistry} {domain : String}
    (appended : registry.appendLine domain = (.ok (), after)) : registry.Writable := by
  by_cases opened : registry.Writable
  · exact opened
  · rw [appendLine_of_not_writable opened] at appended
    cases congrArg Prod.fst appended

/-- What is read after a line was put at the end of the file. -/
theorem read_of_appendLine {registry after : FileRegistry} {domain : String}
    (appended : registry.appendLine domain = (.ok (), after)) :
    after.tree.read after.path =
      .ok ((registry.prepared.tree.read registry.path).toOption.getD .empty ++
        (domain ++ "\n").toUTF8) := by
  obtain ⟨result, put, read⟩ := appendLine_of_writable (writable_of_appendLine appended) domain
  have same : after = result := congrArg Prod.snd (appended.symm.trans put)
  rw [same]
  exact read

/-- A file appends if each line put into it is read back as one more entry. -/
theorem appends_of_appendLine {registry : FileRegistry} {names : List String}
    (listed : registry.list = .ok names)
    (line : ∀ domain after, DomainName.isValid domain = true →
      registry.appendLine domain = (.ok (), after) → after.list = .ok (names ++ [domain])) :
    Registry.Appends registry := by
  intro domain added
  have whole : Registry.add registry domain = (.ok (), (Registry.add registry domain).2) :=
    Prod.ext added rfl
  obtain ⟨⟨valid, _⟩, appended⟩ := (add_eq_ok_iff listed).mp whole
  change _ = Except.map _ registry.list
  rw [listed]
  exact line domain _ valid appended

/-- What is listed after a line was put at the end of a text. -/
theorem list_of_appendLine {registry after : FileRegistry} {text domain : String}
    (readText : registry.tree.readText registry.path = .ok text)
    (appended : registry.appendLine domain = (.ok (), after)) :
    after.list =
      .ok ((registryEntries (text.toList ++ (domain.toList ++ ['\n']))).map String.ofList) := by
  obtain ⟨contents, read, decoded⟩ := FileTree.readText_eq_ok_iff.mp readText
  have readAfter := read_of_appendLine appended
  rw [(prepared_of_read read).1, read] at readAfter
  have readTextAfter := FileTree.readText_eq_ok_iff.mpr
    ⟨_, readAfter, fromUTF8?_append_toUTF8 (domain ++ "\n") decoded⟩
  have spelled : (text ++ (domain ++ "\n")).toList =
      text.toList ++ (domain.toList ++ ['\n']) := by simp
  rw [← spelled]
  exact list_of_readText readTextAfter

theorem appends_of_finished {registry : FileRegistry} (finished : registry.Finished) :
    Registry.Appends registry := by
  obtain ⟨text, readText, ended⟩ := finished
  refine appends_of_appendLine (list_of_readText readText) ?_
  intro domain after valid appended
  rw [list_of_appendLine readText appended, registryEntries_append_line ended valid,
    List.map_append, List.map_singleton, String.ofList_toList]

/-- A line that was put into a file that still reads as text leaves it finished. -/
theorem finished_of_appendLine {registry after : FileRegistry} {domain : String}
    {names : List String} (appended : registry.appendLine domain = (.ok (), after))
    (listed : after.list = .ok names) : after.Finished := by
  have read := read_of_appendLine appended
  rcases list_cases listed with ⟨text, readText⟩ | ⟨missing, _⟩
  · obtain ⟨contents, found, decoded⟩ := FileTree.readText_eq_ok_iff.mp readText
    rw [← Except.ok.inj (read.symm.trans found)] at decoded
    obtain ⟨before, _, rfl⟩ := fromUTF8?_append decoded
    exact ⟨before ++ (domain ++ "\n"), readText, Or.inr (by simp)⟩
  · rw [read] at missing
    cases missing

end FileRegistry

end MailHost
