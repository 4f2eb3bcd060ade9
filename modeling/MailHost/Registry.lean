import MailHost.DomainName
import MailHost.FileTree
import MailHost.Text

/-!
# Registries

A registry holds the domains that were registered by name, in the order they
were added.  Nothing is ever taken out of it.  It is kept in memory or in a
file.
-/

namespace MailHost

inductive RegistryError where
  | duplicate (domain : String)
  | invalidDomain (domain : String)
  | unavailable
  deriving DecidableEq, Repr

def RegistryError.message : RegistryError → String
  | .duplicate domain => "'" ++ domain ++ "' is already a registered domain"
  | .invalidDomain domain => "'" ++ domain ++ "' is not a valid domain name"
  | .unavailable => "the domain store is unavailable"

/--
A type whose values keep registered domains.  Looking changes nothing; adding
gives back the registry as it is afterwards, whether or not it worked.
-/
class Registry (σ : Type) where
  list : σ → Except RegistryError (List String)
  contains : σ → String → Except RegistryError Bool
  add : σ → String → Except RegistryError Unit × σ

/-!
## A registry in memory

The domains it starts with are taken as they are.  Those added later are
checked, and none is added twice.
-/

/-- Registered domains in memory, oldest first. -/
structure MemoryRegistry where
  names : List String
  deriving DecidableEq, Repr

namespace MemoryRegistry

def empty : MemoryRegistry := ⟨[]⟩

def add (registry : MemoryRegistry) (domain : String) :
    Except RegistryError Unit × MemoryRegistry :=
  if !DomainName.isValid domain then (.error (.invalidDomain domain), registry)
  else if registry.names.contains domain then (.error (.duplicate domain), registry)
  else (.ok (), ⟨registry.names ++ [domain]⟩)

instance : Registry MemoryRegistry where
  list registry := .ok registry.names
  contains registry domain := .ok (registry.names.contains domain)
  add := add

end MemoryRegistry

/-!
## A registry in a file

The file has one domain a line.  White space around a domain, blank lines and
lines that start with a number sign do not count.  The file is read anew each
time, so that what is edited by hand counts at once, and a file that is not
there reads as empty.
-/

def registryEntries (text : List Char) : List (List Char) :=
  ((Text.lines text).map Text.trim).filter fun line => !line.isEmpty && line.head? != some '#'

/-- A file with registered domains, and the tree it is in. -/
structure FileRegistry where
  path : String
  tree : FileTree

namespace FileRegistry

def list (registry : FileRegistry) : Except RegistryError (List String) :=
  match registry.tree.readText registry.path with
  | .ok text => .ok ((registryEntries text.toList).map String.ofList)
  | .error .missing => .ok []
  | .error .refused => .error .unavailable

/-- Whether a domain is registered; case counts. -/
def contains (registry : FileRegistry) (domain : String) : Except RegistryError Bool :=
  match registry.list with
  | .error e => .error e
  | .ok names => .ok (names.contains domain)

/-- Put a line at the end of the file, making the file and its directory as needed. -/
def appendLine (registry : FileRegistry) (domain : String) :
    Except RegistryError Unit × FileRegistry :=
  match registry.tree.makeParents registry.path with
  | (.error _, tree) => (.error .unavailable, { registry with tree })
  | (.ok (), tree) =>
      match tree.append registry.path (domain ++ "\n").toUTF8 with
      | .error _ => (.error .unavailable, { registry with tree })
      | .ok appended => (.ok (), { registry with tree := appended })

/-- Register a domain.  It is checked before the file is touched. -/
def add (registry : FileRegistry) (domain : String) :
    Except RegistryError Unit × FileRegistry :=
  if !DomainName.isValid domain then (.error (.invalidDomain domain), registry)
  else
    match registry.list with
    | .error e => (.error e, registry)
    | .ok names =>
        if names.contains domain then (.error (.duplicate domain), registry)
        else registry.appendLine domain

instance : Registry FileRegistry where
  list := list
  contains := contains
  add := add

end FileRegistry

end MailHost
