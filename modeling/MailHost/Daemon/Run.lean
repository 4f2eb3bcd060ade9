import MailHost.CommandLine
import MailHost.LocalDomains

/-!
# The daemon

The daemon takes its settings from its command line and its configuration file,
configures the host, and tells which domains it accepts mail for.
-/

namespace MailHost.Daemon

/-!
## Settings

What the daemon runs with, from its command line and its configuration file.
The command line goes before the file.  A configuration file that the command
line names has to be there and be an outline; the usual ones are used as far
as they can be.
-/

open MailHost.CommandLine

def usualConfig : String := "/etc/domainlist/domainlist.conf"

/-- Where the configuration is looked for next. -/
def fallbackConfig : String := "domainlist.conf"

def usualStore : String := "domains.list"

def usualLogLevel : String := "info"

def optionSpecs : List OptionSpec :=
  [ { letter? := some 'h', name := "help", argument? := none
      description := ["Print this help message"] },
    { letter? := some 'c', name := "config", argument? := some "PATH"
      description :=
        ["An alternate location to read the config from", "Default: " ++ usualConfig] },
    { letter? := some 's', name := "store", argument? := some "PATH"
      description :=
        ["The file registered domains are kept in", "Default: " ++ usualStore] },
    { letter? := none, name := "check", argument? := some "DOMAIN"
      description := ["Exit successfully only if we accept mail for DOMAIN"] },
    { letter? := none, name := "log", argument? := some "LEVEL"
      description := ["Log level, overridden by RUST_LOG", "Default: " ++ usualLogLevel] } ]

def helpText (program : String) : String :=
  usage ("Usage: " ++ program ++ " [options]") optionSpecs ++ "\n"

structure Settings where
  options : Options
  store : String
  check : Option String
  logLevel : String
  deriving DecidableEq, Repr

inductive Command where
  | help (text : String)
  | run (settings : Settings)
  deriving DecidableEq, Repr

inductive SettingsError where
  | usage (cause : UsageError)
  | unreadable (path : String) (cause : OutlineError)
  | options (cause : OptionsError)
  deriving DecidableEq, Repr

def SettingsError.message : SettingsError → String
  | .usage cause => cause.message
  | .unreadable path cause => "failed to parse conf file " ++ path ++ ": " ++ cause.message
  | .options cause => cause.message

/-- The outline in the first of the usual places that holds one; both are looked at. -/
def usualOutline (tree : FileTree) : Outcome SettingsError (Option Outline) := do
  let usual ← (Outline.parseFile tree usualConfig).orNone
  let fallback ← (Outline.parseFile tree fallbackConfig).orNone
  return usual.or fallback

/-- The outline the daemon is configured by, if there is one. -/
def configOutline (tree : FileTree) (given : List Given) :
    Outcome SettingsError (Option Outline) :=
  match argument? given "config" with
  | some path =>
      match (Outline.parseFile tree path).mapError (.unreadable path) with
      | .value outline => .value (some outline)
      | .failed e => .failed e
      | .aborted => .aborted
  | none => usualOutline tree

/-- A value from the command line, else from the configuration, else the usual one. -/
def choose (given : List Given) (outline : Option Outline) (option key usual : String) : String :=
  ((argument? given option).or (outline.bind (·.value? key))).getD usual

def settingsOf (given : List Given) (outline : Option Outline) :
    Except SettingsError Settings :=
  match (outline.map Options.ofOutline).getD (.ok {}) with
  | .error e => .error (.options e)
  | .ok options =>
      .ok
        { options
          store := choose given outline "store" "Store" usualStore
          check := argument? given "check"
          logLevel := choose given outline "log" "LogLevel" usualLogLevel }

/-- What a command line asks for; its first word is the name of the program. -/
def readCommand (tree : FileTree) : List String → Outcome SettingsError Command
  | [] => .aborted
  | program :: words => do
      let given ← Outcome.ofExcept ((parse optionSpecs words).mapError .usage)
      if isGiven given "help" then return .help (helpText program)
      else
        let outline ← configOutline tree given
        let settings ← Outcome.ofExcept (settingsOf given outline)
        return .run settings

/-!
## Running the daemon

The daemon configures the host and then tells either whether it accepts mail
for one domain, or all the domains it accepts mail for.  The exit code says
whether that worked; errors go to the log alone, except for those in the
settings and for a missing default domain.
-/

structure Report where
  exitCode : Nat
  output : String
  errors : String
  tree : FileTree

def asLine (text : String) : String := text ++ "\n"

def reportCheck (host : LocalDomains FileRegistry) (resolver : Resolver) (domain : String) :
    Report :=
  match (host.accepts resolver domain).value with
  | .ok true => ⟨0, asLine (domain ++ " is local"), "", host.store.tree⟩
  | .ok false => ⟨1, asLine (domain ++ " is not local"), "", host.store.tree⟩
  | .error _ => ⟨1, "", "", host.store.tree⟩

/-- What is printed about the default domain, and what is complained of. -/
def defaultLines (host : LocalDomains FileRegistry) : String × String :=
  match host.defaultDomain with
  | .ok domain => (asLine ("default domain: " ++ domain), "")
  | .error e => ("", asLine e.message)

def reportListing (host : LocalDomains FileRegistry) (resolver : Resolver) : Report :=
  let (output, errors) := defaultLines host
  match (host.listing resolver).value with
  | .ok domains =>
      ⟨0, output ++ String.join (domains.map asLine), errors, host.store.tree⟩
  | .error _ => ⟨1, output, errors, host.store.tree⟩

def runSettings (tree : FileTree) (resolver : Resolver) (environment : Environment)
    (settings : Settings) : Report :=
  let host : LocalDomains FileRegistry := .ofStore ⟨settings.store, tree⟩
  match (host.configure resolver environment settings.options).value with
  | (.error _, configured) => ⟨1, "", "", configured.store.tree⟩
  | (.ok (), configured) =>
      match settings.check with
      | some domain => reportCheck configured resolver domain
      | none => reportListing configured resolver

/-- A run with a command line, whose first word is the name of the program. -/
def run (tree : FileTree) (resolver : Resolver) (environment : Environment)
    (commandLine : List String) : Report :=
  match readCommand tree commandLine with
  | .aborted => ⟨101, "", "", tree⟩
  | .failed e => ⟨2, "", asLine e.message, tree⟩
  | .value (.help text) => ⟨0, text, "", tree⟩
  | .value (.run settings) => runSettings tree resolver environment settings

end MailHost.Daemon
