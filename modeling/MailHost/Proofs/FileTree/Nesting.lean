import MailHost.Proofs.FileTree

/-!
# Trees in which everything is in a directory

Files are made in directories only, and no directory is ever taken away, so
that nothing is below a place where nothing is.  Directories that are made on
the way to a missing file therefore bring no file into view, as long as the way
does not lead up again; what they can bring to light is that the way has a name
too long for anything to be there.
-/

namespace MailHost.FileTree

variable {tree : FileTree}

/-- Whatever is in the tree is in a directory, and the working directory is there. -/
structure Nested (tree : FileTree) : Prop where
  parent : ∀ place step, tree.node? (place ++ [step]) ≠ none → tree.node? place = some .directory
  working : tree.node? tree.workingDirectory = some .directory

namespace Nested

theorem above (nested : tree.Nested) {place below : Path} (deeper : below ≠ [])
    (there : tree.node? (place ++ below) ≠ none) : tree.node? place = some .directory := by
  induction below generalizing place with
  | nil => exact absurd rfl deeper
  | cons step rest ih =>
      refine nested.parent place step ?_
      rw [List.append_cons] at there
      cases rest with
      | nil => rwa [List.append_nil] at there
      | cons next tail =>
          rw [ih (List.cons_ne_nil next tail) there]
          exact Option.some_ne_none _

/-- Nothing is below a place where nothing is. -/
theorem below (nested : tree.Nested) {place : Path} (missing : tree.node? place = none)
    (below : Path) : tree.node? (place ++ below) = none := by
  cases below with
  | nil => rwa [List.append_nil]
  | cons step rest =>
      by_cases there : tree.node? (place ++ step :: rest) = none
      · exact there
      · rw [nested.above (List.cons_ne_nil step rest) there] at missing
        cases missing

theorem start (nested : tree.Nested) (path : String) :
    tree.node? (tree.start path) = some .directory := by
  rw [FileTree.start]
  split
  · by_cases root : tree.workingDirectory = []
    · rw [← root]
      exact nested.working
    · refine nested.above root ?_
      rw [List.nil_append, nested.working]
      exact Option.some_ne_none _
  · exact nested.working

theorem dropLast (nested : tree.Nested) {here : Path}
    (directory : tree.node? here = some .directory) :
    tree.node? here.dropLast = some .directory := by
  by_cases root : here = []
  · rwa [root, List.dropLast_nil, ← root]
  · refine nested.parent here.dropLast (here.getLast root) ?_
    rw [List.dropLast_concat_getLast root, directory]
    exact Option.some_ne_none _

/-! ## Changes -/

/-- What is not a directory can be changed; what comes to be there needs a directory. -/
theorem set (nested : tree.Nested) {spot : Path} (free : tree.node? spot ≠ some .directory)
    (node : Option Node)
    (inDirectory : ∀ place step, spot = place ++ [step] → tree.node? place = some .directory) :
    (tree.set spot node).Nested where
  parent place step there := by
    have directory : tree.node? place = some .directory := by
      by_cases same : place ++ [step] = spot
      · exact inDirectory place step same.symm
      · rw [set_node?_other tree node same] at there
        exact nested.parent place step there
    have elsewhere : place ≠ spot := fun same => free (same ▸ directory)
    rw [set_node?_other tree node elsewhere, directory]
  working := by
    have elsewhere : tree.workingDirectory ≠ spot := fun same => free (same ▸ nested.working)
    rw [set_workingDirectory, set_node?_other tree node elsewhere, nested.working]

theorem makeDirectories (nested : tree.Nested) {here : Path}
    (directory : tree.node? here = some .directory) (steps : List String) :
    (tree.makeDirectories here steps).2.Nested := by
  induction steps generalizing tree here with
  | nil => exact nested
  | cons step rest ih =>
      rw [FileTree.makeDirectories]
      by_cases dot : step = "."
      · rw [if_pos dot]
        exact ih nested directory
      · rw [if_neg dot]
        by_cases up : step = ".."
        · rw [if_pos up]
          exact ih nested (nested.dropLast directory)
        · rw [if_neg up]
          cases next : tree.node? (here ++ [step]) with
          | some found =>
              cases found with
              | file contents => exact nested
              | directory => exact ih nested next
          | none =>
              simp only
              by_cases long : isTooLong step = true
              · rw [if_pos long]
                exact nested
              · rw [if_neg long]
                have free : tree.node? (here ++ [step]) ≠ some .directory := by
                  rw [next]
                  exact (Option.some_ne_none _).symm
                refine ih (nested.set free _ ?_) (set_node?_same tree _ _)
                intro place last same
                rw [← (List.append_inj' same rfl).1]
                exact directory

theorem makeParents (nested : tree.Nested) (path : String) :
    (tree.makeParents path).2.Nested :=
  nested.makeDirectories (nested.start path) (parentSteps path)

/-- A place that steps lead to is in a directory. -/
theorem inDirectory_of_walk (nested : tree.Nested) {here place : Path} {steps : List String}
    (walked : tree.walk here steps = .ok place)
    (inDirectory : ∀ above last, here = above ++ [last] → tree.node? above = some .directory) :
    ∀ above last, place = above ++ [last] → tree.node? above = some .directory := by
  have known : ∀ there, tree.node? there = some .directory →
      ∀ above last, there = above ++ [last] → tree.node? above = some .directory := by
    rintro there directory above last rfl
    refine nested.parent above last ?_
    rw [directory]
    exact Option.some_ne_none _
  induction steps generalizing here with
  | nil =>
      cases walked
      exact inDirectory
  | cons step rest ih =>
      have directory := node?_of_walk walked
      rw [walk, directory] at walked
      simp only at walked
      split at walked
      · exact ih walked inDirectory
      · split at walked
        · exact ih walked (known _ (nested.dropLast directory))
        · split at walked
          · cases walked
          · refine ih walked ?_
            intro above last same
            rw [← (List.append_inj' same rfl).1]
            exact directory

theorem inDirectory_of_locate (nested : tree.Nested) {path : String} {place : Path}
    (found : tree.locate path = .ok place) :
    ∀ above last, place = above ++ [last] → tree.node? above = some .directory := by
  rw [locate] at found
  split at found
  · split at found
    · cases found
    · refine nested.inDirectory_of_walk found ?_
      rintro above last start
      refine nested.parent above last ?_
      rw [← start, nested.start]
      exact Option.some_ne_none _
  · cases found

theorem append (nested : tree.Nested) {after : FileTree} {path : String} {bytes : ByteArray}
    (appended : tree.append path bytes = .ok after) : after.Nested := by
  obtain ⟨place, found, free⟩ := locate_of_append appended
  have changed : ∀ node, (tree.set place node).Nested := fun node =>
    nested.set free node (nested.inDirectory_of_locate found)
  rw [FileTree.append, found] at appended
  cases node : tree.node? place with
  | none =>
      simp only [node] at appended
      cases appended
      exact changed _
  | some kind =>
      cases kind with
      | directory => exact absurd node free
      | file contents =>
          simp only [node] at appended
          cases appended
          exact changed _

theorem write (nested : tree.Nested) (path : String) (contents : ByteArray) :
    (tree.write path contents).Nested := by
  have prepared := nested.makeParents path
  rw [FileTree.write]
  generalize tree.makeParents path = made at prepared ⊢
  obtain ⟨result, ready⟩ := made
  simp only at prepared ⊢
  cases found : ready.locate path with
  | error cause => exact prepared
  | ok place =>
      simp only
      split
      · exact prepared
      · rename_i free
        exact prepared.set free _ (prepared.inDirectory_of_locate found)

theorem remove (nested : tree.Nested) (path : String) : (tree.remove path).Nested := by
  rw [FileTree.remove]
  cases found : tree.locate path with
  | error cause => exact nested
  | ok place =>
      simp only
      split
      · rename_i contents file
        refine nested.set ?_ none (nested.inDirectory_of_locate found)
        rw [file]
        exact nofun
      · exact nested

end Nested

theorem nested_empty (workingDirectory : Path) : (empty workingDirectory).Nested where
  parent place step there := by
    simp only [empty] at there ⊢
    split at there
    · rename_i below
      rw [List.isPrefixOf_iff_prefix] at below
      rw [if_pos]
      exact List.isPrefixOf_iff_prefix.mpr ((List.prefix_append place [step]).trans below)
    · exact absurd rfl there
  working := by
    simp [empty]

/-! ## Reading on the way -/

def readFrom (tree : FileTree) (here : Path) (steps : List String) : Except FileError ByteArray :=
  match tree.walk here steps with
  | .error e => .error e
  | .ok place =>
      match tree.node? place with
      | none => .error .missing
      | some .directory => .error .refused
      | some (.file contents) => .ok contents

theorem read_eq_readFrom {path : String} (walkable : isWalkable path = true)
    (named : steps path ≠ []) : tree.read path = tree.readFrom (tree.start path) (steps path) := by
  rw [read, locate, if_pos walkable]
  cases along : steps path with
  | nil => exact absurd along named
  | cons step rest => rfl

/-- One step on from a directory, to a place below it. -/
theorem readFrom_cons {here : Path} (directory : tree.node? here = some .directory)
    {step : String} (rest : List String) (named : step ≠ "." ∧ step ≠ "..") :
    tree.readFrom here (step :: rest) =
      if isTooLong step then .error .refused else tree.readFrom (here ++ [step]) rest := by
  rw [readFrom, walk, directory]
  simp only [if_neg named.1, if_neg named.2]
  by_cases long : isTooLong step = true
  · rw [if_pos long, if_pos long]
  · rw [if_neg long, if_neg long]
    rfl

theorem readFrom_dot {here : Path} (directory : tree.node? here = some .directory)
    (rest : List String) : tree.readFrom here ("." :: rest) = tree.readFrom here rest := by
  rw [readFrom, walk, directory]
  simp only [if_pos]
  rfl

theorem readFrom_of_dots {here : Path} (directory : tree.node? here = some .directory)
    {dots : List String} (allDots : ∀ step ∈ dots, step = ".") :
    tree.readFrom here dots = .error .refused := by
  induction dots with
  | nil => simp only [readFrom, walk, directory]
  | cons step rest ih =>
      obtain ⟨rfl, others⟩ := List.forall_mem_cons.mp allDots
      rw [readFrom_dot directory, ih others]

theorem readFrom_of_missing {here : Path} (missing : tree.node? here = none)
    (steps : List String) : tree.readFrom here steps = .error .missing := by
  cases steps with
  | nil => simp only [readFrom, walk, missing]
  | cons step rest => simp only [readFrom, walk, missing]

theorem readFrom_of_file {here : Path} {contents : ByteArray}
    (file : tree.node? here = some (.file contents)) {steps : List String} (more : steps ≠ []) :
    tree.readFrom here steps = .error .refused := by
  cases steps with
  | nil => exact absurd rfl more
  | cons step rest => simp only [readFrom, walk, file]

/-- What is read at the end of a way that leads to nothing: it may not be a way at all. -/
def nothingAt (steps : List String) : Except FileError ByteArray :=
  .error (if steps.any isTooLong then .refused else .missing)

theorem nothingAt_cons (step : String) (rest : List String) :
    nothingAt (step :: rest) =
      if isTooLong step then .error .refused else nothingAt rest := by
  rw [nothingAt, nothingAt, List.any_cons]
  cases isTooLong step <;> rfl

/-- The last name of a way, with the steps behind it that ask for a directory there. -/
structure IsEnd (last : String) (dots : List String) : Prop where
  named : last ≠ "." ∧ last ≠ ".."
  dots : ∀ step ∈ dots, step = "."

theorem IsEnd.nothingAt_dots {last : String} {dots : List String} (ending : IsEnd last dots) :
    nothingAt dots = .error .missing := by
  rw [nothingAt, List.any_eq_false.mpr]
  · rfl
  · intro step member
    rw [ending.dots step member]
    decide

theorem readFrom_end {here : Path} {last : String} {dots : List String}
    (ending : IsEnd last dots) (directory : tree.node? here = some .directory)
    (missing : tree.node? (here ++ [last]) = none) :
    tree.readFrom here (last :: dots) = nothingAt (last :: dots) := by
  rw [readFrom_cons directory dots ending.named, nothingAt_cons, ending.nothingAt_dots,
    readFrom_of_missing missing]

/-- Directories that are made where nothing is bring nothing else into being. -/
theorem readFrom_makeDirectories_of_bare {parents : List String} {last : String}
    {dots : List String} (ending : IsEnd last dots) (straight : ".." ∉ parents) {here : Path}
    (directory : tree.node? here = some .directory)
    (bare : ∀ step below, tree.node? (here ++ step :: below) = none) :
    (tree.makeDirectories here parents).2.readFrom here (parents ++ last :: dots) =
      nothingAt (parents ++ last :: dots) := by
  induction parents generalizing tree here with
  | nil => exact readFrom_end ending directory (bare last [])
  | cons step rest ih =>
      rw [List.mem_cons, not_or] at straight
      have kept := makeDirectories_keeps directory here (step :: rest)
      rw [List.cons_append]
      by_cases dot : step = "."
      · subst dot
        rw [readFrom_dot kept, nothingAt_cons, if_neg (by decide)]
        rw [makeDirectories, if_pos rfl]
        exact ih straight.2 directory bare
      · have named : step ≠ "." ∧ step ≠ ".." := ⟨dot, Ne.symm straight.1⟩
        rw [readFrom_cons kept _ named, nothingAt_cons]
        by_cases long : isTooLong step = true
        · rw [if_pos long, if_pos long]
        · rw [if_neg long, if_neg long, makeDirectories, if_neg named.1, if_neg named.2,
            bare step []]
          simp only [if_neg long]
          refine ih straight.2 (set_node?_same tree _ _) ?_
          intro next below
          have deeper : here ++ [step] ++ next :: below ≠ here ++ [step] := by simp
          rw [set_node?_other tree _ deeper, List.append_assoc]
          exact bare step (next :: below)

/--
Directories that are made on the way to what is missing do not bring it into
view, whether or not they could all be made.
-/
theorem readFrom_makeDirectories (nested : tree.Nested) {parents : List String} {last : String}
    {dots : List String} (ending : IsEnd last dots) (straight : ".." ∉ parents) {here : Path}
    (directory : tree.node? here = some .directory)
    (missing : tree.readFrom here (parents ++ last :: dots) = .error .missing) :
    (tree.makeDirectories here parents).2.readFrom here (parents ++ last :: dots) =
      nothingAt (parents ++ last :: dots) := by
  induction parents generalizing here with
  | nil =>
      rw [List.nil_append] at missing ⊢
      have passed := missing
      rw [readFrom_cons directory dots ending.named] at passed
      rw [makeDirectories, missing, nothingAt_cons, ending.nothingAt_dots]
      by_cases long : isTooLong last = true
      · rw [if_pos long] at passed
        cases passed
      · rw [if_neg long]
  | cons step rest ih =>
      rw [List.mem_cons, not_or] at straight
      have kept := makeDirectories_keeps directory here (step :: rest)
      rw [List.cons_append] at missing ⊢
      by_cases dot : step = "."
      · subst dot
        rw [readFrom_dot directory] at missing
        rw [readFrom_dot kept, nothingAt_cons, if_neg (by decide), makeDirectories, if_pos rfl]
        exact ih straight.2 directory missing
      · have named : step ≠ "." ∧ step ≠ ".." := ⟨dot, Ne.symm straight.1⟩
        rw [readFrom_cons directory _ named] at missing
        rw [readFrom_cons kept _ named, nothingAt_cons]
        by_cases long : isTooLong step = true
        · rw [if_pos long] at missing
          cases missing
        · rw [if_neg long] at missing
          rw [if_neg long, if_neg long, makeDirectories, if_neg named.1, if_neg named.2]
          cases next : tree.node? (here ++ [step]) with
          | some found =>
              cases found with
              | directory => exact ih straight.2 next missing
              | file contents =>
                  rw [readFrom_of_file next (by simp)] at missing
                  cases missing
          | none =>
              simp only [if_neg long]
              refine readFrom_makeDirectories_of_bare ending straight.2
                (set_node?_same tree _ _) ?_
              intro below deeper
              have apart : here ++ [step] ++ below :: deeper ≠ here ++ [step] := by simp
              rw [set_node?_other tree _ apart]
              exact nested.below next (below :: deeper)

theorem isWalkable_of_missing {path : String} (missing : tree.read path = .error .missing) :
    isWalkable path = true := by
  by_cases walkable : isWalkable path = true
  · exact walkable
  · rw [read, locate, if_neg walkable] at missing
    cases missing

/-- What is missing is not read once the directories above it were made either. -/
theorem read_makeParents_of_missing (nested : tree.Nested) {path : String}
    (straight : ".." ∉ steps path) (missing : tree.read path = .error .missing) :
    (tree.makeParents path).2.read path = nothingAt (steps path) := by
  have walkable := isWalkable_of_missing missing
  have start : (tree.makeParents path).2.start path = tree.start path := by
    rw [FileTree.start, FileTree.start, makeParents, makeDirectories_workingDirectory]
  by_cases unnamed : steps path = []
  · have unchanged : (tree.makeParents path).2 = tree := by
      rw [makeParents, parentSteps, unnamed]
      rfl
    rw [unchanged, missing, unnamed]
    rfl
  · rw [read_eq_readFrom walkable unnamed] at missing ⊢
    rw [start, makeParents]
    have directory := nested.start path
    rcases steps_cases path with ⟨last, dots, parts, undotted, allDots⟩ | ⟨_, allDots⟩
    · rw [parts] at straight missing ⊢
      rw [List.mem_append, List.mem_cons, not_or, not_or] at straight
      have ending : IsEnd last dots := ⟨⟨undotted, Ne.symm straight.2.1⟩, allDots⟩
      exact readFrom_makeDirectories nested ending straight.1 directory missing
    · rw [readFrom_of_dots directory allDots] at missing
      cases missing

/-! ## Directories on the way -/

/-- The place that steps lead to, none of which leads up. -/
def down (here : Path) (steps : List String) : Path :=
  here ++ steps.filter (· ≠ ".")

/-- The steps in front of the first that is longer than a name may be. -/
def inFront (steps : List String) : List String :=
  steps.takeWhile fun step => !isTooLong step

theorem down_dot (here : Path) (steps : List String) :
    down here ("." :: steps) = down here steps := by
  simp [down]

theorem down_cons (here : Path) {step : String} (steps : List String) (named : step ≠ ".") :
    down here (step :: steps) = down (here ++ [step]) steps := by
  simp [down, named]

/-- A name too long for a directory or for the file is in front of nothing that is made. -/
theorem inFront_append {parents : List String} {last : String} {dots : List String}
    (ending : IsEnd last dots)
    (long : (parents ++ last :: dots).any isTooLong = true) :
    inFront (parents ++ last :: dots) = inFront parents := by
  induction parents with
  | nil =>
      rw [List.nil_append, List.any_cons, Bool.or_eq_true] at long
      rcases long with long | long
      · simp [inFront, long]
      · obtain ⟨step, member, long⟩ := List.any_eq_true.mp long
        rw [ending.dots step member] at long
        exact absurd long (by decide)
  | cons step rest ih =>
      rw [inFront, inFront, List.cons_append, List.takeWhile_cons, List.takeWhile_cons]
      cases here : isTooLong step with
      | true => rfl
      | false =>
          rw [List.cons_append, List.any_cons, here, Bool.false_or] at long
          exact congrArg (List.cons step) (ih long)

/-- No file stands on the way to what is missing. -/
theorem not_file_of_missing (nested : tree.Nested) {here : Path} {parents rest : List String}
    (more : rest ≠ []) (straight : ".." ∉ parents)
    (directory : tree.node? here = some .directory)
    (missing : tree.readFrom here (parents ++ rest) = .error .missing) {above : List String}
    (front : above <+: parents) (contents : ByteArray) :
    tree.node? (down here above) ≠ some (.file contents) := by
  induction parents generalizing here above with
  | nil =>
      rw [List.prefix_nil.mp front, down, List.filter_nil, List.append_nil, directory]
      simp
  | cons step parents ih =>
      rw [List.mem_cons, not_or] at straight
      cases above with
      | nil =>
          rw [down, List.filter_nil, List.append_nil, directory]
          simp
      | cons first above =>
          obtain ⟨rfl, later⟩ := List.cons_prefix_cons.mp front
          rw [List.cons_append] at missing
          by_cases dot : first = "."
          · subst dot
            rw [readFrom_dot directory] at missing
            rw [down_dot]
            exact ih straight.2 directory missing later
          · rw [readFrom_cons directory _ ⟨dot, Ne.symm straight.1⟩] at missing
            rw [down_cons here above dot]
            by_cases long : isTooLong first = true
            · rw [if_pos long] at missing
              cases missing
            · rw [if_neg long] at missing
              cases next : tree.node? (here ++ [first]) with
              | some found =>
                  cases found with
                  | directory => exact ih straight.2 next missing later
                  | file bytes =>
                      have further := List.append_ne_nil_of_right_ne_nil parents more
                      rw [readFrom_of_file next further] at missing
                      cases missing
              | none =>
                  rw [down, nested.below next]
                  exact (Option.some_ne_none _).symm

/-- Where no file stands on the way, directories are made up to the first name that is too long. -/
theorem node?_makeDirectories {here : Path} {steps : List String} (straight : ".." ∉ steps)
    (directory : tree.node? here = some .directory)
    (clear : ∀ above, above <+: steps → ∀ contents,
      tree.node? (down here above) ≠ some (.file contents))
    {above : List String} (front : above <+: inFront steps) :
    (tree.makeDirectories here steps).2.node? (down here above) = some .directory := by
  induction steps generalizing tree here above with
  | nil =>
      rw [List.prefix_nil.mp front, down, List.filter_nil, List.append_nil]
      exact directory
  | cons step rest ih =>
      rw [List.mem_cons, not_or] at straight
      cases above with
      | nil =>
          rw [down, List.filter_nil, List.append_nil]
          exact makeDirectories_keeps directory here (step :: rest)
      | cons first above =>
          rw [inFront, List.takeWhile_cons] at front
          split at front
          · rename_i short
            obtain ⟨rfl, later⟩ := List.cons_prefix_cons.mp front
            rw [makeDirectories]
            by_cases dot : first = "."
            · subst dot
              rw [if_pos rfl, down_dot]
              refine ih straight.2 directory ?_ later
              intro above within
              rw [← down_dot]
              exact clear ("." :: above) (List.cons_prefix_cons.mpr ⟨rfl, within⟩)
            · have onward : ∀ above, above <+: rest → ∀ contents,
                  tree.node? (down (here ++ [first]) above) ≠ some (.file contents) := by
                intro above within
                rw [← down_cons here above dot]
                exact clear (first :: above) (List.cons_prefix_cons.mpr ⟨rfl, within⟩)
              rw [if_neg dot, if_neg (Ne.symm straight.1), down_cons here above dot]
              cases next : tree.node? (here ++ [first]) with
              | some found =>
                  cases found with
                  | directory => exact ih straight.2 next onward later
                  | file contents =>
                      refine absurd next ?_
                      have free := onward [] List.nil_prefix contents
                      rwa [down, List.filter_nil, List.append_nil] at free
              | none =>
                  have notLong : ¬ isTooLong first = true := by simpa using short
                  simp only [if_neg notLong]
                  refine ih straight.2 (set_node?_same tree _ _) ?_ later
                  intro above within contents
                  by_cases same : down (here ++ [first]) above = here ++ [first]
                  · rw [same, set_node?_same]
                    simp
                  · rw [set_node?_other tree _ same]
                    exact onward above within contents
          · exact absurd (List.prefix_nil.mp front) (List.cons_ne_nil first above)

/--
The directories in front of a name that is too long are there once those above
what is missing were to be made.
-/
theorem node?_makeParents_of_long (nested : tree.Nested) {path : String}
    (straight : ".." ∉ steps path) (missing : tree.read path = .error .missing)
    (long : (steps path).any isTooLong = true) {above : List String}
    (front : above <+: inFront (steps path)) :
    (tree.makeParents path).2.node? (down (tree.start path) above) = some .directory := by
  have named : steps path ≠ [] := by
    intro unnamed
    rw [unnamed] at long
    cases long
  rw [read_eq_readFrom (isWalkable_of_missing missing) named] at missing
  have directory := nested.start path
  rcases steps_cases path with ⟨last, dots, parts, undotted, allDots⟩ | ⟨_, allDots⟩
  · rw [parts] at straight missing long front
    rw [List.mem_append, List.mem_cons, not_or, not_or] at straight
    rw [inFront_append ⟨⟨undotted, Ne.symm straight.2.1⟩, allDots⟩ long] at front
    refine node?_makeDirectories straight.1 directory ?_ front
    intro above within contents
    exact not_file_of_missing nested (List.cons_ne_nil last dots) straight.1 directory missing
      within contents
  · rw [readFrom_of_dots directory allDots] at missing
    cases missing

/-! ## Files elsewhere -/

/-- Where directories are made, no file comes or goes. -/
theorem makeDirectories_file_iff {place : Path} {contents : ByteArray} (here : Path)
    (steps : List String) :
    (tree.makeDirectories here steps).2.node? place = some (.file contents) ↔
      tree.node? place = some (.file contents) := by
  refine ⟨?_, fun present => makeDirectories_keeps present here steps⟩
  intro present
  induction steps generalizing tree here with
  | nil => exact present
  | cons step rest ih =>
      rw [makeDirectories] at present
      split at present
      · exact ih here present
      · split at present
        · exact ih here.dropLast present
        · split at present
          · exact ih (here ++ [step]) present
          · exact present
          · split at present
            · exact present
            · have before := ih (here ++ [step]) present
              by_cases same : place = here ++ [step]
              · rw [same, set_node?_same] at before
                cases before
              · rwa [set_node?_other tree _ same] at before

end MailHost.FileTree
