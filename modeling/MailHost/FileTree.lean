/-!
# Files and directories

A tree holds a file, a directory or nothing at every path.  A written path is
followed step by step from the root or from the working directory, and each
step but the last must lead to a directory that is there.  What goes wrong is
either that nothing is there or that the tree refuses.

It is assumed that nobody lacks a permission and that there is always room: a
file that is there or can be made takes all the bytes it is given, at once, and
a directory is made wherever its name is free and not too long.  There are no
links, and nobody else changes the tree meanwhile.
-/

namespace MailHost

/-- The steps that lead from the root to a place in a tree. -/
abbrev Path := List String

inductive Node where
  | file (contents : ByteArray)
  | directory

inductive FileError where
  | missing
  | refused
  deriving DecidableEq, Repr

structure FileTree where
  node? : Path → Option Node
  workingDirectory : Path

namespace FileTree

/-- A tree with nothing but the working directory and those above it. -/
def empty (workingDirectory : Path) : FileTree where
  node? place := if place.isPrefixOf workingDirectory then some .directory else none
  workingDirectory := workingDirectory

def set (tree : FileTree) (place : Path) (node : Option Node) : FileTree :=
  { tree with node? := fun other => if other = place then node else tree.node? other }

@[simp]
theorem set_node?_same (tree : FileTree) (place : Path) (node : Option Node) :
    (tree.set place node).node? place = node := by
  simp [set]

theorem set_node?_other (tree : FileTree) (node : Option Node) {place other : Path}
    (different : other ≠ place) : (tree.set place node).node? other = tree.node? other := by
  simp [set, different]

@[simp]
theorem set_workingDirectory (tree : FileTree) (place : Path) (node : Option Node) :
    (tree.set place node).workingDirectory = tree.workingDirectory := rfl

/-! ## Written paths -/

/--
The steps of a written path.  A slash at the end asks for a directory, as the
step `.` does.
-/
def steps (path : String) : List String :=
  let named := ((path.toList.splitOn '/').filter fun step => !step.isEmpty).map String.ofList
  if path.toList.getLast? = some '/' then named ++ ["."] else named

/-- Where a written path starts. -/
def start (tree : FileTree) (path : String) : Path :=
  if path.toList.head? = some '/' then [] else tree.workingDirectory

/-- The steps to the directory that holds the last step of a written path. -/
def parentSteps (path : String) : List String :=
  ((steps path).reverse.dropWhile (· = ".")).tail.reverse

def isTooLong (step : String) : Bool :=
  255 < step.utf8ByteSize

def isWalkable (path : String) : Bool :=
  !path.toList.contains '\x00' && path.utf8ByteSize < 4096

/-- Follow steps.  Nothing need be at the place the last step leads to. -/
def walk (tree : FileTree) : Path → List String → Except FileError Path
  | here, [] => .ok here
  | here, step :: rest =>
      match tree.node? here with
      | none => .error .missing
      | some (.file _) => .error .refused
      | some .directory =>
          if step = "." then walk tree here rest
          else if step = ".." then walk tree here.dropLast rest
          else if isTooLong step then .error .refused
          else walk tree (here ++ [step]) rest

def locate (tree : FileTree) (path : String) : Except FileError Path :=
  if isWalkable path then
    match steps path with
    | [] => .error .missing
    | step :: rest => tree.walk (tree.start path) (step :: rest)
  else .error .refused

/-! ## Reading -/

def read (tree : FileTree) (path : String) : Except FileError ByteArray :=
  match tree.locate path with
  | .error e => .error e
  | .ok place =>
      match tree.node? place with
      | none => .error .missing
      | some .directory => .error .refused
      | some (.file contents) => .ok contents

def readText (tree : FileTree) (path : String) : Except FileError String :=
  match tree.read path with
  | .error e => .error e
  | .ok contents =>
      match String.fromUTF8? contents with
      | none => .error .refused
      | some text => .ok text

/-! ## Writing -/

/-- Put bytes at the end of a file, which is made if nothing is there. -/
def append (tree : FileTree) (path : String) (bytes : ByteArray) : Except FileError FileTree :=
  match tree.locate path with
  | .error e => .error e
  | .ok place =>
      match tree.node? place with
      | none => .ok (tree.set place (some (.file bytes)))
      | some .directory => .error .refused
      | some (.file contents) => .ok (tree.set place (some (.file (contents ++ bytes))))

/--
Make the directories along some steps that are not there yet.  Those made
before a step is refused stay.
-/
def makeDirectories (tree : FileTree) : Path → List String → Except FileError Unit × FileTree
  | _, [] => (.ok (), tree)
  | here, step :: rest =>
      if step = "." then makeDirectories tree here rest
      else if step = ".." then makeDirectories tree here.dropLast rest
      else
        match tree.node? (here ++ [step]) with
        | some .directory => makeDirectories tree (here ++ [step]) rest
        | some (.file _) => (.error .refused, tree)
        | none =>
            if isTooLong step then (.error .refused, tree)
            else
              makeDirectories (tree.set (here ++ [step]) (some .directory)) (here ++ [step]) rest

/-- Make the directory that is to hold a file, and those above it. -/
def makeParents (tree : FileTree) (path : String) : Except FileError Unit × FileTree :=
  tree.makeDirectories (tree.start path) (parentSteps path)

def makeDirectory (tree : FileTree) (path : String) : FileTree :=
  (tree.makeDirectories (tree.start path) (steps path)).2

/-- Give a file its contents; it and the directories above it are made as needed. -/
def write (tree : FileTree) (path : String) (contents : ByteArray) : FileTree :=
  let (_, prepared) := tree.makeParents path
  match prepared.locate path with
  | .error _ => prepared
  | .ok place =>
      match prepared.node? place with
      | some .directory => prepared
      | _ => prepared.set place (some (.file contents))

def remove (tree : FileTree) (path : String) : FileTree :=
  match tree.locate path with
  | .error _ => tree
  | .ok place =>
      match tree.node? place with
      | some (.file _) => tree.set place none
      | _ => tree

end FileTree

end MailHost
