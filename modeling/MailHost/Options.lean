import MailHost.Outline

/-!
# What a host is configured with

The variables of the environment, and options that an outline gives.
-/

namespace MailHost

/-!
## Environment variables

A variable holds bytes.  One whose bytes are not UTF-8 reads as if it were not
set.
-/

structure Environment where
  bytes? : String → Option ByteArray

namespace Environment

def empty : Environment := ⟨fun _ => none⟩

def set (environment : Environment) (name : String) (value : ByteArray) : Environment :=
  ⟨fun other => if other = name then some value else environment.bytes? other⟩

def var? (environment : Environment) (name : String) : Option String :=
  (environment.bytes? name).bind String.fromUTF8?

@[simp]
theorem var?_empty (name : String) : empty.var? name = none := rfl

end Environment

/-!
## Options

What a host is configured with.  An outline gives each option in a field of
its own, and an option without a value there keeps its default.
-/

/-- Stands for the default domain until a real one is known. -/
def localhost : String := "localhost"

structure Options where
  /-- Whether the name of the machine is among the domains. -/
  autodetect : Bool := true
  /-- Whether the addresses of all domains are among the domains. -/
  autodetectIp : Bool := true
  /-- The domain for mail that names none. -/
  defaultDomain : String := localhost
  /-- The domains to register. -/
  domainNames : List String := []
  deriving DecidableEq, Repr

inductive OptionsError where
  | unreadable (path : String) (cause : OutlineError)
  | notABoolean (key value : String)
  deriving DecidableEq, Repr

def OptionsError.message : OptionsError → String
  | .unreadable path cause => "failed to read config file " ++ path ++ ": " ++ cause.message
  | .notABoolean key value => "'" ++ value ++ "' is not a boolean, which " ++ key ++ " must be"

namespace Options

def onWords : List String := ["true", "yes", "on", "1"]

def offWords : List String := ["false", "no", "off", "0"]

def trimmed (text : String) : String :=
  String.ofList (Text.trim text.toList)

/-- The flag a word stands for; case and white space around it do not count. -/
def flag? (value : String) : Option Bool :=
  let word := Text.lower (trimmed value)
  if onWords.contains word then some true
  else if offWords.contains word then some false
  else none

/-- The flag in a field, or the default if the field is missing or without value. -/
def readFlag (outline : Outline) (key : String) (standard : Bool) : Except OptionsError Bool :=
  match outline.value? key with
  | none => .ok standard
  | some value =>
      match flag? value with
      | some flag => .ok flag
      | none => .error (.notABoolean key value)

/-- The names between commas, without white space around them; empty ones do not count. -/
def names (value : String) : List String :=
  (((value.toList.splitOn ',').map Text.trim).filter fun name => !name.isEmpty).map String.ofList

def ofOutline (outline : Outline) : Except OptionsError Options :=
  match readFlag outline "Autodetect" true with
  | .error e => .error e
  | .ok autodetect =>
      match readFlag outline "AutodetectIP" true with
      | .error e => .error e
      | .ok autodetectIp =>
          .ok
            { autodetect
              autodetectIp
              defaultDomain := ((outline.value? "DefaultDomain").map trimmed).getD localhost
              domainNames := ((outline.value? "DomainNames").map names).getD [] }

def ofFile (tree : FileTree) (path : String) : Outcome OptionsError Options :=
  match (Outline.parseFile tree path).mapError (.unreadable path) with
  | .value outline => .ofExcept (ofOutline outline)
  | .failed e => .failed e
  | .aborted => .aborted

end Options

end MailHost
