import MailHost.FileTree

/-!
# Files that stay where they are

Following a written path looks at directories only, so it is not disturbed by
what becomes of anything else.  Making the directories above a file that can be
reached changes nothing, and making them a second time never does.  So a file
that was written can be read, and written again at the same place.
-/

namespace MailHost.FileTree

/-! ## Following steps -/

theorem node?_of_walk {tree : FileTree} {here place : Path} {step : String} {rest : List String}
    (walked : tree.walk here (step :: rest) = .ok place) : tree.node? here = some .directory := by
  rw [walk] at walked
  cases node : tree.node? here with
  | none => rw [node] at walked; cases walked
  | some found =>
      cases found with
      | file contents => rw [node] at walked; cases walked
      | directory => rfl

theorem walk_set {tree : FileTree} {spot : Path} (node : Option Node)
    (unused : tree.node? spot ≠ some .directory) {here place : Path} {steps : List String}
    (walked : tree.walk here steps = .ok place) :
    (tree.set spot node).walk here steps = .ok place := by
  induction steps generalizing here with
  | nil => exact walked
  | cons step rest ih =>
      have directory := node?_of_walk walked
      have elsewhere : here ≠ spot := fun same => unused (same ▸ directory)
      rw [walk, directory] at walked
      rw [walk, set_node?_other tree node elsewhere, directory]
      simp only at walked ⊢
      by_cases dot : step = "."
      · rw [if_pos dot] at walked ⊢
        exact ih walked
      · rw [if_neg dot] at walked ⊢
        by_cases up : step = ".."
        · rw [if_pos up] at walked ⊢
          exact ih walked
        · rw [if_neg up] at walked ⊢
          by_cases long : isTooLong step = true
          · rw [if_pos long] at walked
            cases walked
          · rw [if_neg long] at walked ⊢
            exact ih walked

theorem locate_set {tree : FileTree} {spot : Path} (node : Option Node)
    (unused : tree.node? spot ≠ some .directory) {path : String} {place : Path}
    (found : tree.locate path = .ok place) : (tree.set spot node).locate path = .ok place := by
  rw [locate] at found ⊢
  by_cases walkable : isWalkable path = true
  · rw [if_pos walkable] at found ⊢
    cases along : steps path with
    | nil => rw [along] at found; cases found
    | cons step rest =>
        rw [along] at found
        exact walk_set node unused found
  · rw [if_neg walkable] at found
    cases found

/-! ## Making directories -/

theorem makeDirectories_of_walk {tree : FileTree} {here place : Path}
    {parents rest : List String} (more : rest ≠ [])
    (walked : tree.walk here (parents ++ rest) = .ok place) :
    tree.makeDirectories here parents = (.ok (), tree) := by
  induction parents generalizing here with
  | nil => rfl
  | cons step parents ih =>
      rw [List.cons_append, walk, node?_of_walk walked] at walked
      rw [makeDirectories]
      simp only at walked
      by_cases dot : step = "."
      · rw [if_pos dot] at walked ⊢
        exact ih walked
      · rw [if_neg dot] at walked ⊢
        by_cases up : step = ".."
        · rw [if_pos up] at walked ⊢
          exact ih walked
        · rw [if_neg up] at walked ⊢
          by_cases long : isTooLong step = true
          · rw [if_pos long] at walked
            cases walked
          · rw [if_neg long] at walked
            -- a step follows, so that the walk found a directory here
            have directory : tree.node? (here ++ [step]) = some .directory := by
              cases onward : parents ++ rest with
              | nil => exact absurd (List.append_eq_nil_iff.mp onward).2 more
              | cons next tail =>
                  rw [onward] at walked
                  exact node?_of_walk walked
            rw [directory]
            exact ih walked

/-- The steps to a directory, a name in it and dots behind the name, or nothing but dots. -/
theorem steps_cases (path : String) :
    (∃ last dots, steps path = parentSteps path ++ last :: dots ∧ last ≠ "." ∧
        ∀ step ∈ dots, step = ".") ∨
      parentSteps path = [] ∧ ∀ step ∈ steps path, step = "." := by
  have whole : steps path = ((steps path).reverse.dropWhile (· = ".")).reverse ++
      ((steps path).reverse.takeWhile (· = ".")).reverse := by
    rw [← List.reverse_append, List.takeWhile_append_dropWhile, List.reverse_reverse]
  have dots : ∀ step ∈ ((steps path).reverse.takeWhile (· = ".")).reverse, step = "." := by
    intro step member
    rw [List.mem_reverse] at member
    simpa using List.all_eq_true.mp (@List.all_takeWhile _ (· = ".") (steps path).reverse) _ member
  rw [parentSteps]
  cases named : (steps path).reverse.dropWhile (· = ".") with
  | nil =>
      rw [named, List.reverse_nil, List.nil_append] at whole
      refine Or.inr ⟨rfl, ?_⟩
      rwa [whole]
  | cons last before =>
      rw [named, List.reverse_cons, List.append_assoc] at whole
      have undotted : last ≠ "." := by
        have head := List.head?_dropWhile_not (· = ".") (steps path).reverse
        rw [named] at head
        simpa using head
      exact Or.inl ⟨last, _, whole, undotted, dots⟩

theorem steps_eq_parentSteps_append (path : String) (named : steps path ≠ []) :
    ∃ rest, rest ≠ [] ∧ steps path = parentSteps path ++ rest := by
  rcases steps_cases path with ⟨last, dots, parts, _, _⟩ | ⟨noParents, _⟩
  · exact ⟨last :: dots, List.cons_ne_nil last dots, parts⟩
  · exact ⟨steps path, named, by rw [noParents]; rfl⟩

theorem makeParents_of_locate {tree : FileTree} {path : String} {place : Path}
    (found : tree.locate path = .ok place) : tree.makeParents path = (.ok (), tree) := by
  rw [locate] at found
  by_cases walkable : isWalkable path = true
  · rw [if_pos walkable] at found
    cases along : steps path with
    | nil => rw [along] at found; cases found
    | cons step tail =>
        obtain ⟨rest, more, parts⟩ :=
          steps_eq_parentSteps_append path (by rw [along]; exact List.cons_ne_nil _ _)
        rw [along] at found
        simp only at found
        rw [← along, parts] at found
        exact makeDirectories_of_walk more found
  · rw [if_neg walkable] at found
    cases found

theorem makeDirectories_keeps {tree : FileTree} {spot : Path} {node : Node}
    (present : tree.node? spot = some node) (here : Path) (steps : List String) :
    (tree.makeDirectories here steps).2.node? spot = some node := by
  induction steps generalizing tree here with
  | nil => exact present
  | cons step rest ih =>
      rw [makeDirectories]
      by_cases dot : step = "."
      · rw [if_pos dot]
        exact ih present _
      · rw [if_neg dot]
        by_cases up : step = ".."
        · rw [if_pos up]
          exact ih present _
        · rw [if_neg up]
          cases next : tree.node? (here ++ [step]) with
          | some found =>
              cases found with
              | file contents => exact present
              | directory => exact ih present _
          | none =>
              simp only
              by_cases long : isTooLong step = true
              · rw [if_pos long]
                exact present
              · rw [if_neg long]
                have elsewhere : spot ≠ here ++ [step] := by
                  intro same
                  rw [same, next] at present
                  cases present
                exact ih (by rw [set_node?_other tree _ elsewhere, present]) _

theorem makeDirectories_workingDirectory (tree : FileTree) (here : Path) (steps : List String) :
    (tree.makeDirectories here steps).2.workingDirectory = tree.workingDirectory := by
  induction steps generalizing tree here with
  | nil => rfl
  | cons step rest ih =>
      rw [makeDirectories]
      split
      · exact ih tree here
      · split
        · exact ih tree here.dropLast
        · split
          · exact ih tree (here ++ [step])
          · rfl
          · split
            · rfl
            · exact ih (tree.set (here ++ [step]) (some .directory)) (here ++ [step])

/-- Directories that were made, or could not be, are not made again. -/
theorem makeDirectories_again (tree : FileTree) (here : Path) (steps : List String) :
    (tree.makeDirectories here steps).2.makeDirectories here steps =
      tree.makeDirectories here steps := by
  induction steps generalizing tree here with
  | nil => rfl
  | cons step rest ih =>
      by_cases dot : step = "."
      · simp only [makeDirectories, if_pos dot]
        exact ih tree here
      · by_cases up : step = ".."
        · simp only [makeDirectories, if_neg dot, if_pos up]
          exact ih tree here.dropLast
        · cases next : tree.node? (here ++ [step]) with
          | some found =>
              cases found with
              | file contents => simp only [makeDirectories, if_neg dot, if_neg up, next]
              | directory =>
                  have kept := makeDirectories_keeps next (here ++ [step]) rest
                  simp only [makeDirectories, if_neg dot, if_neg up, next, kept]
                  exact ih tree (here ++ [step])
          | none =>
              by_cases long : isTooLong step = true
              · simp only [makeDirectories, if_neg dot, if_neg up, next, if_pos long]
              · have made : (tree.set (here ++ [step]) (some .directory)).node? (here ++ [step]) =
                    some .directory := set_node?_same tree _ _
                have kept := makeDirectories_keeps made (here ++ [step]) rest
                simp only [makeDirectories, if_neg dot, if_neg up, next, if_neg long, kept]
                exact ih _ (here ++ [step])

theorem makeParents_again (tree : FileTree) (path : String) :
    (tree.makeParents path).2.makeParents path = tree.makeParents path := by
  have start : (tree.makeParents path).2.start path = tree.start path := by
    rw [FileTree.start, FileTree.start, makeParents, makeDirectories_workingDirectory]
  rw [makeParents, start]
  exact makeDirectories_again tree (tree.start path) (parentSteps path)

/-! ## Reading what was written -/

theorem locate_of_read {tree : FileTree} {path : String} {contents : ByteArray}
    (read : tree.read path = .ok contents) :
    ∃ place, tree.locate path = .ok place ∧ tree.node? place = some (.file contents) := by
  rw [FileTree.read] at read
  cases found : tree.locate path with
  | error cause => rw [found] at read; cases read
  | ok place =>
      rw [found] at read
      refine ⟨place, rfl, ?_⟩
      cases node : tree.node? place with
      | none => simp only [node] at read; cases read
      | some kind =>
          cases kind with
          | directory => simp only [node] at read; cases read
          | file bytes =>
              simp only [node] at read
              rw [Except.ok.inj read]

theorem locate_of_append {tree after : FileTree} {path : String} {bytes : ByteArray}
    (appended : tree.append path bytes = .ok after) :
    ∃ place, tree.locate path = .ok place ∧ tree.node? place ≠ some .directory := by
  rw [append] at appended
  cases found : tree.locate path with
  | error cause => rw [found] at appended; cases appended
  | ok place =>
      rw [found] at appended
      refine ⟨place, rfl, ?_⟩
      intro directory
      simp only [directory] at appended
      cases appended

/-- Bytes put at the end of a file that can be reached are read after those already there. -/
theorem append_of_locate {tree : FileTree} {path : String} {place : Path}
    (found : tree.locate path = .ok place) (free : tree.node? place ≠ some .directory)
    (bytes : ByteArray) :
    ∃ after, tree.append path bytes = .ok after ∧ after.locate path = .ok place ∧
      after.read path = .ok ((tree.read path).toOption.getD .empty ++ bytes) := by
  have readAfter : ∀ contents,
      (tree.set place (some (.file contents))).read path = .ok contents := by
    intro contents
    rw [FileTree.read, locate_set _ free found]
    simp only [set_node?_same]
  cases node : tree.node? place with
  | none =>
      refine ⟨tree.set place (some (.file bytes)), by simp only [append, found, node],
        locate_set _ free found, ?_⟩
      rw [readAfter]
      simp [FileTree.read, found, node, Except.toOption]
  | some kind =>
      cases kind with
      | directory => exact absurd node free
      | file contents =>
          refine ⟨tree.set place (some (.file (contents ++ bytes))),
            by simp only [append, found, node], locate_set _ free found, ?_⟩
          rw [readAfter]
          simp [FileTree.read, found, node, Except.toOption]

end MailHost.FileTree
