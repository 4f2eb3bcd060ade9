import MailHost.Proofs.CheckedNames
import MailHost.Proofs.FileTree.Nesting

/-!
# Additions to a registry file

An addition is checked in a fixed order: the name first, then whether the file
can be read, whether it lists the name, and whether it can be written.  If one
of the checks fails nothing is put into any file.  Directories that were made
on the way to a missing file stay, though, and where they lead to a name too
long for a file, what was listed as empty cannot be read any more.
-/

namespace MailHost

namespace FileRegistry

open DomainName (isValid)

variable {registry : FileRegistry} {domain : String}

/-- The registry can be read, and the domain is in it. -/
def Lists (registry : FileRegistry) (domain : String) : Prop :=
  ∃ names, registry.list = .ok names ∧ domain ∈ names

/-- The registry can be read, and the domain is not in it. -/
def Lacks (registry : FileRegistry) (domain : String) : Prop :=
  ∃ names, registry.list = .ok names ∧ domain ∉ names

/-! ## How an addition ends -/

namespace Ending

variable {result : Except RegistryError Unit} {after : FileRegistry}

theorem duplicate_iff (ending : Ending registry domain result after) {repeated : String} :
    result = .error (.duplicate repeated) ↔
      isValid domain = true ∧ registry.Lists domain ∧ domain = repeated := by
  cases ending with
  | invalid invalid => simp [invalid]
  | unread valid unread => simp [Lists, unread]
  | duplicate valid listed known => simp [valid, Lists, listed, known]
  | shut valid listed new shut => simp [Lists, listed, new]
  | done valid listed new opened appended => simp [Lists, listed, new]

theorem unavailable_iff (ending : Ending registry domain result after) :
    result = .error .unavailable ↔
      isValid domain = true ∧
        (registry.tree.readText registry.path = .error .refused ∨
          registry.Lacks domain ∧ ¬ registry.Writable) := by
  rw [← list_eq_unavailable_iff]
  cases ending with
  | invalid invalid => simp [invalid]
  | unread valid unread => simp [valid, unread]
  | duplicate valid listed known => simp [Lacks, listed, known]
  | shut valid listed new shut => simp [valid, Lacks, listed, new, shut]
  | done valid listed new opened appended => simp [listed, opened]

theorem ok_iff (ending : Ending registry domain result after) :
    result = .ok () ↔ isValid domain = true ∧ registry.Lacks domain ∧ registry.Writable := by
  cases ending with
  | invalid invalid => simp [invalid]
  | unread valid unread => simp [Lacks, unread]
  | duplicate valid listed known => simp [Lacks, listed, known]
  | shut valid listed new shut => simp [shut]
  | done valid listed new opened appended => simp [valid, Lacks, listed, new, opened]

/-- An addition that fails leaves the registry as it was, or makes directories to a missing file. -/
theorem left_of_failed (ending : Ending registry domain result after) (failed : result ≠ .ok ()) :
    after = registry ∨
      after = registry.prepared ∧ isValid domain = true ∧
        registry.tree.read registry.path = .error .missing := by
  cases ending with
  | shut valid listed new shut =>
      exact Or.inr ⟨rfl, valid, (missing_of_not_writable shut listed).1⟩
  | done valid listed new opened appended => exact absurd rfl failed
  | _ => exact Or.inl rfl

/-- An addition that fails makes, changes and takes away no file. -/
theorem file_iff_of_failed (ending : Ending registry domain result after)
    (failed : result ≠ .ok ()) (place : Path) (contents : ByteArray) :
    after.tree.node? place = some (.file contents) ↔
      registry.tree.node? place = some (.file contents) := by
  rcases ending.left_of_failed failed with rfl | ⟨rfl, _⟩
  · exact Iff.rfl
  · exact FileTree.makeDirectories_file_iff _ _

end Ending

/-! ## On the way to a missing file -/

/-- There is no file, and none can be made: a step to it is longer than a name may be. -/
structure Unmakable (registry : FileRegistry) : Prop where
  missing : registry.tree.read registry.path = .error .missing
  long : (FileTree.steps registry.path).any FileTree.isTooLong = true

section Nested

variable (nested : registry.tree.Nested) (straight : ".." ∉ FileTree.steps registry.path)

include nested straight

theorem read_prepared_of_missing (missing : registry.tree.read registry.path = .error .missing) :
    registry.prepared.tree.read registry.path =
      FileTree.nothingAt (FileTree.steps registry.path) :=
  FileTree.read_makeParents_of_missing nested straight missing

theorem read_prepared_of_unmakable (unmakable : registry.Unmakable) :
    registry.prepared.tree.read registry.path = .error .refused := by
  rw [read_prepared_of_missing nested straight unmakable.missing, FileTree.nothingAt,
    if_pos unmakable.long]

theorem not_writable_of_unmakable (unmakable : registry.Unmakable) : ¬ registry.Writable := by
  rintro ⟨_, place, found, free⟩
  have refused := read_prepared_of_unmakable nested straight unmakable
  rw [FileTree.read, found] at refused
  cases node : registry.prepared.tree.node? place with
  | none => simp only [node] at refused; cases refused
  | some kind =>
      cases kind with
      | file contents => simp only [node] at refused; cases refused
      | directory => exact free node

namespace Ending

variable {result : Except RegistryError Unit} {after : FileRegistry}

theorem read_of_failed (ending : Ending registry domain result after) (failed : result ≠ .ok ())
    (makable : ¬ (isValid domain = true ∧ registry.Unmakable)) :
    after.tree.read after.path = registry.tree.read registry.path := by
  rcases ending.left_of_failed failed with rfl | ⟨rfl, valid, missing⟩
  · rfl
  · have short : ¬ (FileTree.steps registry.path).any FileTree.isTooLong = true :=
      fun long => makable ⟨valid, missing, long⟩
    have unread := read_prepared_of_missing nested straight missing
    rw [FileTree.nothingAt, if_neg short] at unread
    exact unread.trans missing.symm

theorem prepared_of_unmakable (ending : Ending registry domain result after)
    (valid : isValid domain = true) (unmakable : registry.Unmakable) :
    result = .error .unavailable ∧ after = registry.prepared := by
  have listed := list_of_missing unmakable.missing
  cases ending with
  | invalid invalid => rw [valid] at invalid; cases invalid
  | unread _ unread => rw [listed] at unread; cases unread
  | duplicate _ names known =>
      rw [listed] at names
      cases names
      cases known
  | shut _ _ new shut => exact ⟨rfl, rfl⟩
  | done _ _ new opened appended =>
      exact absurd opened (not_writable_of_unmakable nested straight unmakable)

theorem lost_of_unmakable (ending : Ending registry domain result after)
    (valid : isValid domain = true) (unmakable : registry.Unmakable) :
    after.list = .error .unavailable := by
  obtain ⟨_, rfl⟩ := ending.prepared_of_unmakable nested straight valid unmakable
  exact list_of_refused (read_prepared_of_unmakable nested straight unmakable)

theorem made_of_unmakable (ending : Ending registry domain result after)
    (valid : isValid domain = true) (unmakable : registry.Unmakable) {above : List String}
    (front : above <+: FileTree.inFront (FileTree.steps registry.path)) :
    after.tree.node? (FileTree.down (registry.tree.start registry.path) above) =
      some .directory := by
  obtain ⟨_, rfl⟩ := ending.prepared_of_unmakable nested straight valid unmakable
  exact FileTree.node?_makeParents_of_long nested straight unmakable.missing unmakable.long front

/-- An addition that succeeds puts the domain on a line behind what was read before. -/
theorem read_of_ok (ending : Ending registry domain result after) (added : result = .ok ()) :
    after.tree.read after.path =
      .ok ((registry.tree.read registry.path).toOption.getD .empty ++ (domain ++ "\n").toUTF8) := by
  cases ending with
  | done valid listed new opened appended =>
      rw [read_of_appendLine appended]
      rcases list_cases listed with ⟨text, readText⟩ | ⟨missing, _⟩
      · obtain ⟨contents, read, _⟩ := FileTree.readText_eq_ok_iff.mp readText
        rw [(prepared_of_read read).1]
      · rw [read_prepared_of_missing nested straight missing, missing]
        rfl
  | _ => cases added

end Ending

end Nested

theorem nested_appendLine (nested : registry.tree.Nested) (domain : String) :
    (registry.appendLine domain).2.tree.Nested := by
  have prepared := nested.makeParents registry.path
  rw [appendLine]
  generalize registry.tree.makeParents registry.path = made at prepared ⊢
  obtain ⟨result, tree⟩ := made
  cases result with
  | error cause => exact prepared
  | ok _ =>
      simp only at prepared ⊢
      cases appended : tree.append registry.path (domain ++ "\n").toUTF8 with
      | error cause => exact prepared
      | ok after => exact prepared.append appended

theorem nested_add (nested : registry.tree.Nested) (domain : String) :
    (Registry.add registry domain).2.tree.Nested := by
  have ending := registry.ending_add domain
  generalize Registry.add registry domain = ended at ending ⊢
  obtain ⟨result, after⟩ := ended
  cases ending with
  | shut valid listed new shut => exact nested.makeParents registry.path
  | done valid listed new opened appended =>
      have whole := nested_appendLine nested domain
      rwa [appended] at whole
  | _ => exact nested

/-! ## The order of the checks -/

/--
An addition is refused as malformed just if its domain is no domain name, as a
duplicate just if it is one that the file lists, and as unavailable just if the
file cannot be read, or does not list the domain and cannot be written.
Otherwise the domain is put on a line behind the old contents.  An addition
that fails changes no file, and what is read, listed and contained stays as it
is, with one exception: if a domain name is to be put into a file that is
missing and cannot be made because a step to it is too long, the directories in
front of that step are made and stay, and the registry, which was empty, cannot
be read any more.
-/
theorem add_checks_in_order (registry : FileRegistry) (domain : String)
    (nested : registry.tree.Nested) (straight : ".." ∉ FileTree.steps registry.path) :
    let result := (Registry.add registry domain).1
    let after := (Registry.add registry domain).2
    (∀ malformed, result = .error (.invalidDomain malformed) ↔
      isValid domain = false ∧ domain = malformed) ∧
    (∀ repeated, result = .error (.duplicate repeated) ↔
      isValid domain = true ∧ registry.Lists domain ∧ domain = repeated) ∧
    (result = .error .unavailable ↔
      isValid domain = true ∧
        (registry.tree.readText registry.path = .error .refused ∨
          registry.Lacks domain ∧ ¬ registry.Writable)) ∧
    (result = .ok () ↔ isValid domain = true ∧ registry.Lacks domain ∧ registry.Writable) ∧
    (result = .ok () →
      after.tree.read after.path =
        .ok ((registry.tree.read registry.path).toOption.getD .empty ++
          (domain ++ "\n").toUTF8)) ∧
    (result ≠ .ok () →
      (∀ place contents, after.tree.node? place = some (.file contents) ↔
        registry.tree.node? place = some (.file contents)) ∧
      (¬ (isValid domain = true ∧ registry.Unmakable) →
        after.tree.read after.path = registry.tree.read registry.path ∧
        Registry.list after = Registry.list registry ∧
        ∀ other, Registry.contains after other = Registry.contains registry other)) ∧
    (isValid domain = true → registry.Unmakable →
      result = .error .unavailable ∧
        (∀ above, above <+: FileTree.inFront (FileTree.steps registry.path) →
          after.tree.node? (FileTree.down (registry.tree.start registry.path) above) =
            some .directory) ∧
        Registry.list registry = .ok [] ∧
        Registry.list after = .error .unavailable ∧
        ∀ other, Registry.contains after other = .error .unavailable) ∧
    after.path = registry.path ∧ after.tree.Nested := by
  intro result after
  have ending : Ending registry domain result after := registry.ending_add domain
  refine ⟨CheckedRegistry.add_invalid_iff registry domain, fun _ => ending.duplicate_iff,
    ending.unavailable_iff, ending.ok_iff, ending.read_of_ok nested straight, ?_, ?_,
    add_path registry domain, nested_add nested domain⟩
  · intro failed
    refine ⟨ending.file_iff_of_failed failed, ?_⟩
    intro makable
    have read := ending.read_of_failed nested straight failed makable
    have listed : Registry.list after = Registry.list registry := list_of_same_read read
    refine ⟨read, listed, ?_⟩
    intro other
    rw [LawfulRegistry.contains_eq, LawfulRegistry.contains_eq, listed]
  · intro valid unmakable
    obtain ⟨refused, _⟩ := ending.prepared_of_unmakable nested straight valid unmakable
    have unread : Registry.list after = .error .unavailable :=
      ending.lost_of_unmakable nested straight valid unmakable
    refine ⟨refused, ?_, list_of_missing unmakable.missing, unread, ?_⟩
    · intro above front
      exact ending.made_of_unmakable nested straight valid unmakable front
    · intro other
      rw [LawfulRegistry.contains_eq, unread]
      rfl

def shelf : FileTree :=
  (FileTree.empty []).write "lists/domains.list" "nyble.dev\n".toUTF8

theorem add_checks_in_order_on_shelf :
    let file := FileRegistry.mk "lists/domains.list" shelf
    let folder := FileRegistry.mk "lists" shelf
    let grown := (Registry.add file "nove.dev").2
    shelf.Nested ∧ ".." ∉ FileTree.steps file.path ∧ ".." ∉ FileTree.steps folder.path ∧
      (Registry.add file "nove.dev").1 = .ok () ∧
      grown.tree.read grown.path = .ok ("nyble.dev\n".toUTF8 ++ ("nove.dev" ++ "\n").toUTF8) ∧
      (Registry.add file "nyble.dev").1 = .error (.duplicate "nyble.dev") ∧
      (Registry.add folder "nove dev").1 = .error (.invalidDomain "nove dev") ∧
      (Registry.add folder "nove.dev").1 = .error .unavailable ∧
      Registry.contains (Registry.add folder "nove.dev").2 "nove.dev" =
        Registry.contains folder "nove.dev" := by
  have read : shelf.read "lists/domains.list" = .ok "nyble.dev\n".toUTF8 := by rfl
  have listed : Registry.list (FileRegistry.mk "lists/domains.list" shelf) =
      .ok ["nyble.dev"] := by rfl
  have shut : shelf.read "lists" = .error .refused := by rfl
  intro file folder grown
  have nested : shelf.Nested := (FileTree.nested_empty []).write _ _
  have straight : ".." ∉ FileTree.steps file.path ∧ ".." ∉ FileTree.steps folder.path := by
    decide
  -- a domain that is new to the file
  obtain ⟨_, _, _, ok, line, _⟩ := add_checks_in_order file "nove.dev" nested straight.1
  have added := ok.mpr ⟨rfl, ⟨_, listed, by decide⟩, (@prepared_of_read file _ read).2⟩
  have appended := line added
  have before : file.tree.read file.path = .ok "nyble.dev\n".toUTF8 := read
  rw [before] at appended
  -- one that the file lists
  obtain ⟨_, duplicate, _⟩ := add_checks_in_order file "nyble.dev" nested straight.1
  have repeated := (duplicate "nyble.dev").mpr ⟨rfl, ⟨_, listed, by decide⟩, rfl⟩
  -- two for a registry that is a directory
  obtain ⟨invalid, _⟩ := add_checks_in_order folder "nove dev" nested straight.2
  have malformed := (invalid "nove dev").mpr ⟨rfl, rfl⟩
  obtain ⟨_, _, unavailable, _, _, failed, _⟩ :=
    add_checks_in_order folder "nove.dev" nested straight.2
  have refused : folder.tree.readText folder.path = .error .refused := by
    rw [FileTree.readText, shut]
  have unread := unavailable.mpr ⟨rfl, Or.inl refused⟩
  have makable : ¬ (isValid "nove.dev" = true ∧ folder.Unmakable) := by
    rintro ⟨_, missing, _⟩
    cases missing.symm.trans shut
  obtain ⟨_, _, contains⟩ := (failed (by rw [unread]; simp)).2 makable
  exact ⟨nested, straight.1, straight.2, added, appended, repeated, malformed, unread,
    contains "nove.dev"⟩

def letters (count : Nat) : String :=
  String.ofList (List.replicate count 'x')

theorem utf8ByteSize_letters (count : Nat) : (letters count).utf8ByteSize = count := by
  induction count with
  | zero => rfl
  | succ count ih =>
      have more : letters (count + 1) = String.singleton 'x' ++ letters count := by
        rw [letters, letters, List.replicate_succ, ← String.ofList_cons]
      rw [more, String.utf8ByteSize_append, String.utf8ByteSize_singleton, ih, Nat.add_comm]
      rfl

/-- A file that is not there, in a directory that is not there either. -/
def faraway (count : Nat) : FileRegistry :=
  ⟨"gone/" ++ letters count, .empty []⟩

theorem toList_faraway (count : Nat) :
    (faraway count).path.toList = "gone".toList ++ '/' :: List.replicate count 'x' := by
  simp only [faraway, letters, String.toList_append, String.toList_ofList]
  rfl

theorem steps_faraway (count : Nat) :
    FileTree.steps (faraway (count + 1)).path = ["gone", letters (count + 1)] := by
  have plain : '/' ∉ List.replicate (count + 1) 'x' := fun member =>
    absurd (List.eq_of_mem_replicate member) (by decide)
  have folder : '/' ∉ "gone".toList := by decide
  have last : ("gone".toList ++ '/' :: List.replicate (count + 1) 'x').getLast? = some 'x' := by
    rw [List.replicate_succ', ← List.cons_append, ← List.append_assoc, List.getLast?_concat]
  rw [FileTree.steps, toList_faraway, last, if_neg (by decide), List.splitOn_append_cons_self,
    List.splitOn_eq_singleton plain, List.splitOn_eq_singleton folder]
  rfl

theorem unmakable_faraway {count : Nat} (long : 255 < count) (short : count < 4091) :
    (faraway count).Unmakable := by
  obtain ⟨count, rfl⟩ := Nat.exists_eq_succ_of_ne_zero (Nat.ne_of_gt (Nat.zero_lt_of_lt long))
  have steps := steps_faraway count
  have walkable : FileTree.isWalkable (faraway (count + 1)).path = true := by
    have bare : '\x00' ∉ (faraway (count + 1)).path.toList := by
      rw [toList_faraway]
      simp [List.mem_replicate]
    have size : (faraway (count + 1)).path.utf8ByteSize = 5 + (count + 1) := by
      rw [faraway, String.utf8ByteSize_append, utf8ByteSize_letters]
      rfl
    rw [FileTree.isWalkable, size]
    simp [bare]
    omega
  constructor
  · have start : (faraway (count + 1)).tree.start (faraway (count + 1)).path = [] := ite_self []
    rw [FileTree.read, FileTree.locate, if_pos walkable, steps, start]
    rfl
  · rw [steps, List.any_cons, List.any_cons, FileTree.isTooLong, FileTree.isTooLong,
      utf8ByteSize_letters, decide_eq_true long]
    rfl

/--
An addition fails and leaves a directory behind, and what was listed as empty
before cannot be read afterwards.
-/
theorem add_failed_loses_list :
    let registry := faraway 256
    let after := (Registry.add registry "nyble.dev").2
    registry.tree.Nested ∧ ".." ∉ FileTree.steps registry.path ∧
      (Registry.add registry "nyble.dev").1 = .error .unavailable ∧
      registry.tree.node? ["gone"] = none ∧ after.tree.node? ["gone"] = some .directory ∧
      Registry.list registry = .ok [] ∧ Registry.list after = .error .unavailable ∧
      Registry.contains registry "nyble.dev" = .ok false ∧
      Registry.contains after "nyble.dev" = .error .unavailable := by
  intro registry after
  have nested : registry.tree.Nested := FileTree.nested_empty []
  have straight : ".." ∉ FileTree.steps registry.path := by
    have longer : ".." ≠ letters 256 := fun same =>
      absurd ((congrArg String.utf8ByteSize same).trans (utf8ByteSize_letters 256)) (by decide)
    rw [steps_faraway 255]
    simp [longer]
  have unmakable : registry.Unmakable := unmakable_faraway (by decide) (by decide)
  have listed : Registry.list registry = .ok [] := list_of_missing unmakable.missing
  have ending : Ending registry "nyble.dev" _ after := registry.ending_add "nyble.dev"
  obtain ⟨refused, _⟩ := ending.prepared_of_unmakable nested straight rfl unmakable
  have unread : Registry.list after = .error .unavailable :=
    ending.lost_of_unmakable nested straight rfl unmakable
  have start : registry.tree.start registry.path = [] := ite_self []
  have front : ["gone"] <+: FileTree.inFront (FileTree.steps registry.path) := by
    rw [steps_faraway 255]
    exact List.prefix_append ["gone"] _
  have made := ending.made_of_unmakable nested straight rfl unmakable front
  have place : FileTree.down [] ["gone"] = ["gone"] := by decide
  rw [start, place] at made
  refine ⟨nested, straight, refused, rfl, made, listed, unread, ?_, ?_⟩
  · rw [LawfulRegistry.contains_eq, listed]
    rfl
  · rw [LawfulRegistry.contains_eq, unread]
    rfl

end FileRegistry

end MailHost
