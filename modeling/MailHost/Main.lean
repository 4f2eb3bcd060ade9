import MailHost.Daemon.Run
import MailHost.Resolver.Literal

/-!
# The program

Reads the files that a run looks at, runs the daemon on them, and writes back
what the run changed.
-/

namespace MailHost.Daemon

/-- The name under which the program explains itself. -/
def programName : String := "domainlistd"

def absolutePath (place : Path) : String := "/" ++ String.intercalate "/" place

/-- The contents of a file, if there is one that can be read. -/
def readPlace (place : Path) : IO (Option ByteArray) := do
  try
    return some (← IO.FS.readBinFile (absolutePath place))
  catch _ => return none

def isDirectory (place : Path) : IO Bool := do
  let here ← IO.currentDir
  (here / absolutePath place).isDir

def loadPlace (tree : FileTree) (place : Path) : IO FileTree := do
  if ← isDirectory place then return tree.set place (some .directory)
  match ← readPlace place with
  | some contents => return tree.set place (some (.file contents))
  | none => return tree

def load (tree : FileTree) (path : String) : IO FileTree := do
  let mut loaded := tree
  let mut place := tree.start path
  for step in FileTree.steps path do
    if step = ".." then place := place.dropLast
    else if step ≠ "." then
      place := place ++ [step]
      loaded ← loadPlace loaded place
  return loaded

/-- Write the file at a written path if a run changed it. -/
def save (before after : FileTree) (path : String) : IO Unit := do
  match after.locate path, after.read path with
  | .ok place, .ok contents =>
      unless (before.read path).toOption.map ByteArray.data = some contents.data do
        IO.FS.createDirAll (absolutePath place.dropLast)
        IO.FS.writeBinFile (absolutePath place) contents
  | _, _ => return ()

/-- The tree around the working directory, with the configuration files in it. -/
def surroundings (words : List String) : IO FileTree := do
  let here := (← IO.currentDir).toString
  let mut tree := FileTree.empty ((FileTree.steps here).filter (· ≠ "."))
  let named :=
    match CommandLine.parse optionSpecs words with
    | .ok given => (CommandLine.argument? given "config").toList
    | .error _ => []
  for path in usualConfig :: fallbackConfig :: named do
    tree ← load tree path
  return tree

def processEnvironment : IO Environment := do
  match ← IO.getEnv LocalDomains.domainVariable with
  | some value => return Environment.empty.set LocalDomains.domainVariable value.toUTF8
  | none => return .empty

def runProcess (words : List String) : IO UInt32 := do
  let commandLine := programName :: words
  let settled ← surroundings words
  let store? :=
    match readCommand settled commandLine with
    | .value (.run settings) => some settings.store
    | _ => none
  let tree ← store?.elim (pure settled) (load settled)
  let report := run tree .literal (← processEnvironment) commandLine
  for path in store?.toList do
    save tree report.tree path
  IO.print report.output
  IO.eprint report.errors
  return UInt32.ofNat report.exitCode

end MailHost.Daemon

def main (words : List String) : IO UInt32 :=
  MailHost.Daemon.runProcess words
