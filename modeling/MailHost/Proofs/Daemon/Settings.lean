import MailHost.Daemon.Run
import MailHost.Proofs.Outline
import MailHost.Proofs.Registry.Writing

/-!
# Settings of the daemon

Where the daemon finds its configuration, and what becomes of errors and aborts
in it.
-/

namespace MailHost

/-!
## Options that are given

A command line is accepted if its words can be read and give no option twice.
One option more among those given is the one found under its name, and leaves
what is found under other names.
-/

namespace CommandLine

variable {specs : List OptionSpec} {words : List String} {given before after : List Given}
  {option : Given} {name : String}

theorem argument?_of_not_given (absent : isGiven given name = false) :
    argument? given name = none := by
  have unmatched : given.find? (fun option => option.name = name) = none := by
    simpa [isGiven, List.find?_eq_none] using absent
  rw [argument?, unmatched]
  rfl

theorem argument?_insert_other (different : option.name ≠ name) :
    argument? (before ++ option :: after) name = argument? (before ++ after) name := by
  simp [argument?, List.find?_append, different]

theorem argument?_insert_same (absent : isGiven (before ++ after) option.name = false) :
    argument? (before ++ option :: after) option.name = option.argument? := by
  have unmatched : before.find? (fun other => other.name = option.name) = none := by
    simp only [isGiven, List.any_append, Bool.or_eq_false_iff] at absent
    simpa [List.find?_eq_none] using absent.1
  simp [argument?, List.find?_append, unmatched]

theorem isGiven_insert_other (different : option.name ≠ name) :
    isGiven (before ++ option :: after) name = isGiven (before ++ after) name := by
  simp [isGiven, different]

theorem parse_eq_ok_iff :
    parse specs words = .ok given ↔
      readWords specs words = .ok given ∧ ∀ spec ∈ specs, timesGiven given spec.name ≤ 1 := by
  rw [parse]
  cases readWords specs words with
  | error cause => simp
  | ok options =>
      cases twice : specs.find? fun spec => 1 < timesGiven options spec.name with
      | none =>
          have once : ∀ spec ∈ specs, timesGiven options spec.name ≤ 1 := by
            simpa [List.find?_eq_none] using twice
          simp only [twice, Except.ok.injEq]
          exact ⟨fun same => ⟨same, same ▸ once⟩, And.left⟩
      | some spec =>
          have found : 1 < timesGiven options spec.name := by simpa using List.find?_some twice
          simp only [twice, reduceCtorEq, Except.ok.injEq, false_iff]
          rintro ⟨rfl, once⟩
          exact absurd (once spec (List.mem_of_find?_eq_some twice)) (Nat.not_le.mpr found)

theorem timesGiven_of_not_given (absent : isGiven given name = false) :
    timesGiven given name = 0 := by
  simpa [isGiven, timesGiven, List.countP_eq_zero] using absent

end CommandLine

/-!
## The configuration in the working directory

Without a configuration on the command line or in the usual place, the daemon
reads the one in the working directory.  Where that file is an outline, the
daemon is configured as if the command line had named it.  Where it is not, the
daemon runs with its built-in settings, as if there were no file, while with
the file named it would not run.
-/

namespace Daemon

open CommandLine

variable {tree : FileTree} {program : String} {words named : List String} {given : List Given}

/-! ### Naming the file -/

def fallbackOption : Given := ⟨"config", some fallbackConfig⟩

/-- The words give the given options and somewhere among them the one naming the file. -/
def NamesFallback (given : List Given) (named : List String) : Prop :=
  ∃ before after,
    given = before ++ after ∧ parse optionSpecs named = .ok (before ++ fallbackOption :: after)

/-- A command line without a configuration names the file once the option stands in front. -/
theorem namesFallback_in_front (parsed : parse optionSpecs words = .ok given)
    (unnamed : isGiven given "config" = false) :
    NamesFallback given ("--config" :: fallbackConfig :: words) := by
  obtain ⟨read, once⟩ := parse_eq_ok_iff.mp parsed
  refine ⟨[], given, rfl, parse_eq_ok_iff.mpr ⟨?_, ?_⟩⟩
  · have option : readWord optionSpecs "--config" =
        .ok ⟨[], some (optionSpecs[1], "config")⟩ := by
      rfl
    simp only [readWords, option, read]
    rfl
  · intro spec member
    rw [List.nil_append, timesGiven, List.countP_cons]
    by_cases same : fallbackOption.name = spec.name
    · have never : timesGiven given spec.name = 0 :=
        timesGiven_of_not_given (same ▸ unnamed)
      rw [timesGiven] at never
      simp [never, same]
    · simpa [same, timesGiven] using once spec member

/-! ### What the daemon runs with -/

/-- A file is no outline because it holds no text or a text that is refused. -/
theorem parseFile_not_failed_iff {path : String} {bytes : ByteArray}
    (held : tree.read path = .ok bytes) :
    (∀ cause, Outline.parseFile tree path ≠ .failed cause) ↔
      ∃ text, String.fromUTF8? bytes = some text ∧ ∀ cause, Outline.parse text ≠ .failed cause := by
  cases decoded : String.fromUTF8? bytes with
  | none => simp [Outline.parseFile, FileTree.readText, held, decoded]
  | some text => simp [Outline.parseFile, FileTree.readText, held, decoded]

def builtIn (given : List Given) : Settings where
  options := {}
  store := (argument? given "store").getD usualStore
  check := argument? given "check"
  logLevel := (argument? given "log").getD usualLogLevel

def runWith (given : List Given) (outline : Option Outline) : Outcome SettingsError Command :=
  match settingsOf given outline with
  | .ok settings => .value (.run settings)
  | .error e => .failed e

theorem runWith_none : runWith given none = .value (.run (builtIn given)) := by
  simp [runWith, settingsOf, choose, builtIn]

/-- The name of the configuration is not read again once the configuration has been. -/
theorem runWith_insert {before after : List Given} {option : Given} (outline : Option Outline)
    (config : option.name = "config") :
    runWith (before ++ option :: after) outline = runWith (before ++ after) outline := by
  have others : ∀ name, name ≠ "config" →
      argument? (before ++ option :: after) name = argument? (before ++ after) name :=
    fun name other => argument?_insert_other (config ▸ other.symm)
  simp only [runWith, settingsOf, choose, others "store" (by decide), others "check" (by decide),
    others "log" (by decide)]

theorem readCommand_eq_runWith (parsed : parse optionSpecs words = .ok given)
    (unasked : isGiven given "help" = false) :
    readCommand tree (program :: words) = configOutline tree given >>= runWith given := by
  have accepted : (parse optionSpecs words).mapError SettingsError.usage = .ok given := by
    rw [parsed]
    rfl
  simp only [readCommand, accepted, Outcome.ofExcept, Outcome.value_bind, unasked]
  cases configOutline tree given with
  | failed e => rfl
  | aborted => rfl
  | value outline =>
      simp only [Outcome.value_bind, runWith]
      cases settingsOf given outline <;> rfl

/-- Without a configuration on the command line, errors in the working directory are lost. -/
theorem configOutline_of_unnamed {cause : FileError}
    (absent : tree.read usualConfig = .error cause) (unnamed : isGiven given "config" = false) :
    configOutline tree given = (Outline.parseFile tree fallbackConfig).orNone := by
  have usual : Outline.parseFile tree usualConfig = .failed .notOpened := by
    simp only [Outline.parseFile, FileTree.readText, absent]
  simp only [configOutline, argument?_of_not_given unnamed, usualOutline, usual, Outcome.orNone,
    Outcome.value_bind]
  cases Outline.parseFile tree fallbackConfig <;> rfl

theorem configOutline_of_named {before after : List Given}
    (unnamed : isGiven (before ++ after) "config" = false) :
    configOutline tree (before ++ fallbackOption :: after) =
      ((Outline.parseFile tree fallbackConfig).mapError (.unreadable fallbackConfig) >>=
        fun outline => .value (some outline)) := by
  have config : isGiven (before ++ after) fallbackOption.name = false := unnamed
  have named : argument? (before ++ fallbackOption :: after) "config" = some fallbackConfig :=
    argument?_insert_same config
  simp only [configOutline, named]
  cases Outline.parseFile tree fallbackConfig <;> rfl

/-! ### The two runs -/

theorem readCommand_of_unnamed {cause : FileError} (program : String)
    (absent : tree.read usualConfig = .error cause) (parsed : parse optionSpecs words = .ok given)
    (unasked : isGiven given "help" = false) (unnamed : isGiven given "config" = false) :
    readCommand tree (program :: words) =
      (Outline.parseFile tree fallbackConfig).orNone >>= runWith given := by
  rw [← configOutline_of_unnamed absent unnamed]
  exact readCommand_eq_runWith parsed unasked

theorem readCommand_of_named (program : String) (names : NamesFallback given named)
    (unasked : isGiven given "help" = false) (unnamed : isGiven given "config" = false) :
    readCommand tree (program :: named) =
      (Outline.parseFile tree fallbackConfig).mapError (.unreadable fallbackConfig) >>=
        fun outline => runWith given (some outline) := by
  obtain ⟨before, after, rfl, parsed⟩ := names
  have helpUnasked : isGiven (before ++ fallbackOption :: after) "help" = false := by
    rw [isGiven_insert_other (by decide)]
    exact unasked
  rw [readCommand_eq_runWith parsed helpUnasked, configOutline_of_named unnamed]
  cases Outline.parseFile tree fallbackConfig with
  | value outline => exact runWith_insert (some outline) rfl
  | failed cause => rfl
  | aborted => rfl

/--
Where nothing can be read in the usual place, a command line that names no
configuration is compared with one that also names the file in the working
directory, wherever it does so; it can always be done in front.  An outline in
that file configures both alike.  An error there is told only where the file is
named; otherwise the settings are the built-in ones, whether the file is missing
or not.  So the contents of a file are honoured or its error told just if they
are text that is not refused as an outline.
-/
theorem fallback_honoured_iff {cause : FileError}
    (absent : tree.read usualConfig = .error cause) (program : String)
    (parsed : parse optionSpecs words = .ok given) (unasked : isGiven given "help" = false)
    (unnamed : isGiven given "config" = false) (names : NamesFallback given named) :
    let unnamedRun := readCommand tree (program :: words)
    let namedRun := readCommand tree (program :: named)
    NamesFallback given ("--config" :: fallbackConfig :: words) ∧
    (∀ outline, Outline.parseFile tree fallbackConfig = .value outline →
      unnamedRun = runWith given (some outline) ∧ namedRun = runWith given (some outline)) ∧
    (∀ cause, Outline.parseFile tree fallbackConfig = .failed cause →
      unnamedRun = .value (.run (builtIn given)) ∧
      namedRun = .failed (.unreadable fallbackConfig cause)) ∧
    (∀ bytes, tree.read fallbackConfig = .ok bytes →
      (unnamedRun = namedRun ↔
        ∃ text, String.fromUTF8? bytes = some text ∧
          ∀ cause, Outline.parse text ≠ .failed cause)) := by
  intro unnamedRun namedRun
  have unnamedRun_eq : unnamedRun = _ :=
    readCommand_of_unnamed program absent parsed unasked unnamed
  have namedRun_eq : namedRun = _ := readCommand_of_named program names unasked unnamed
  have honoured : ∀ outline, Outline.parseFile tree fallbackConfig = .value outline →
      unnamedRun = runWith given (some outline) ∧ namedRun = runWith given (some outline) := by
    intro outline read
    rw [unnamedRun_eq, namedRun_eq, read]
    exact ⟨rfl, rfl⟩
  have dropped : ∀ cause, Outline.parseFile tree fallbackConfig = .failed cause →
      unnamedRun = .value (.run (builtIn given)) ∧
        namedRun = .failed (.unreadable fallbackConfig cause) := by
    intro cause read
    rw [unnamedRun_eq, namedRun_eq, read, ← runWith_none]
    exact ⟨rfl, rfl⟩
  refine ⟨namesFallback_in_front parsed unnamed, honoured, dropped, fun bytes held => ?_⟩
  rw [← parseFile_not_failed_iff held]
  cases read : Outline.parseFile tree fallbackConfig with
  | value outline => simp [honoured outline read]
  | failed cause => simp [dropped cause read]
  | aborted => simp [unnamedRun_eq, namedRun_eq, read, Outcome.orNone, Outcome.mapError]

def workplace (text : String) : FileTree :=
  (FileTree.empty []).write fallbackConfig text.toUTF8

theorem fallback_honoured_iff_of_outline :
    let tree := workplace "Autodetect off\nStore mail.list\n"
    let words := ["--log", "warn"]
    let named := ["--log", "warn", "-c", "domainlist.conf"]
    let given := [Given.mk "log" (some "warn")]
    tree.read usualConfig = .error .missing ∧ parse optionSpecs words = .ok given ∧
      isGiven given "help" = false ∧ isGiven given "config" = false ∧
      NamesFallback given named ∧
      readCommand tree ("domainlistd" :: words) = readCommand tree ("domainlistd" :: named) := by
  intro tree words named given
  have absent : tree.read usualConfig = .error .missing := by rfl
  have parsed : parse optionSpecs words = .ok given := by rfl
  have names : NamesFallback given named := ⟨given, [], rfl, rfl⟩
  have held : tree.read fallbackConfig = .ok "Autodetect off\nStore mail.list\n".toUTF8 := by rfl
  have readable : ∀ cause, Outline.parse "Autodetect off\nStore mail.list\n" ≠ .failed cause := by
    have read : Outline.parse "Autodetect off\nStore mail.list\n" =
        .value ⟨[⟨"Autodetect", some "off"⟩, ⟨"Store", some "mail.list"⟩]⟩ := by
      decide +kernel
    simp [read]
  refine ⟨absent, parsed, rfl, rfl, names, ?_⟩
  have compared := (fallback_honoured_iff absent "domainlistd" parsed rfl rfl names).2.2.2 _ held
  exact compared.mpr ⟨_, fromUTF8?_toUTF8 _, readable⟩

/--
An outline that starts with an indent is passed over.  The run with the file
named fails, the one without goes on with the built-in settings.
-/
theorem fallback_error_dropped :
    let tree := workplace " a b"
    tree.read usualConfig = .error .missing ∧ tree.read fallbackConfig = .ok " a b".toUTF8 ∧
      parse optionSpecs [] = .ok [] ∧
      readCommand tree ["domainlistd"] = .value (.run (builtIn [])) ∧
      readCommand tree ["domainlistd", "--config", "domainlist.conf"] =
        .failed (.unreadable "domainlist.conf" (.startedIndented 0)) := by
  refine ⟨rfl, rfl, rfl, ?_, ?_⟩
  · decide +kernel
  · decide +kernel

end Daemon

/-!
## Configurations that take the daemon down

Errors in a configuration are told, but the reader of outlines has lines it
aborts at, and nothing between it and the daemon stops that.  So the daemon
comes down on each spoilt file it looks at; without a configuration on the
command line it looks at both of the usual places, whatever it then uses.
-/

open CommandLine

theorem Outline.parseFile_eq_aborted_iff (tree : FileTree) (path : String) :
    parseFile tree path = .aborted ↔ ∃ text, tree.readText path = .ok text ∧ Spoilt text := by
  unfold parseFile
  cases tree.readText path with
  | error cause => simp
  | ok text => simp [parse_eq_aborted_iff]

theorem Options.ofFile_eq_aborted_iff (tree : FileTree) (path : String) :
    Options.ofFile tree path = .aborted ↔ Outline.parseFile tree path = .aborted := by
  unfold Options.ofFile
  cases Outline.parseFile tree path with
  | value outline =>
      simp only [Outcome.mapError]
      cases ofOutline outline <;> simp [Outcome.ofExcept]
  | failed cause => simp [Outcome.mapError]
  | aborted => simp [Outcome.mapError]

namespace Daemon

variable {tree : FileTree} {program : String} {words : List String} {given : List Given}

def consulted (given : List Given) : List String :=
  match argument? given "config" with
  | some path => [path]
  | none => [usualConfig, fallbackConfig]

theorem configOutline_eq_aborted_iff :
    configOutline tree given = .aborted ↔
      ∃ path ∈ consulted given, Outline.parseFile tree path = .aborted := by
  unfold configOutline consulted
  cases argument? given "config" with
  | some path =>
      simp only [List.mem_singleton, exists_eq_left]
      cases Outline.parseFile tree path <;> simp [Outcome.mapError]
  | none =>
      unfold usualOutline
      simp only [List.mem_cons, List.not_mem_nil, or_false, exists_eq_or_imp, exists_eq_left]
      cases Outline.parseFile tree usualConfig <;> cases Outline.parseFile tree fallbackConfig <;>
        simp [Outcome.orNone]

/-- Once the outline is there the daemon has settings or an error to tell. -/
theorem runWith_ne_aborted (given : List Given) (outline : Option Outline) :
    runWith given outline ≠ .aborted := by
  unfold runWith
  cases settingsOf given outline <;> simp

theorem readCommand_eq_aborted_iff_of_given (parsed : parse optionSpecs words = .ok given)
    (unasked : isGiven given "help" = false) :
    readCommand tree (program :: words) = .aborted ↔
      ∃ path ∈ consulted given, Outline.parseFile tree path = .aborted := by
  rw [readCommand_eq_runWith parsed unasked, ← configOutline_eq_aborted_iff]
  cases configOutline tree given with
  | value outline => exact iff_of_false (runWith_ne_aborted given outline) (by simp)
  | failed cause => simp
  | aborted => simp

/--
The daemon aborts just if its command line is accepted, does not ask for help,
and leads it to a configuration that is a spoilt text.  So does reading options
from a file alone.  On any other configuration there is a value or an error.
-/
theorem configuration_aborts_iff (tree : FileTree) (program : String) (words : List String) :
    (readCommand tree (program :: words) = .aborted ↔
      ∃ given, parse optionSpecs words = .ok given ∧ isGiven given "help" = false ∧
        ∃ path ∈ consulted given, ∃ text,
          tree.readText path = .ok text ∧ Outline.Spoilt text) ∧
    ∀ path, Options.ofFile tree path = .aborted ↔
      ∃ text, tree.readText path = .ok text ∧ Outline.Spoilt text := by
  simp only [← Outline.parseFile_eq_aborted_iff]
  refine ⟨?_, Options.ofFile_eq_aborted_iff tree⟩
  constructor
  · intro aborted
    cases parsed : parse optionSpecs words with
    | error cause =>
        have refused : (parse optionSpecs words).mapError SettingsError.usage =
            .error (.usage cause) := by
          rw [parsed]
          rfl
        simp [readCommand, refused, Outcome.ofExcept] at aborted
    | ok given =>
        cases asked : isGiven given "help" with
        | true =>
            have accepted : (parse optionSpecs words).mapError SettingsError.usage = .ok given := by
              rw [parsed]
              rfl
            simp [readCommand, accepted, Outcome.ofExcept, asked] at aborted
        | false =>
            have spoilt := (readCommand_eq_aborted_iff_of_given parsed asked).mp aborted
            exact ⟨given, rfl, asked, spoilt⟩
  · rintro ⟨given, parsed, unasked, spoilt⟩
    exact (readCommand_eq_aborted_iff_of_given parsed unasked).mpr spoilt

/--
An indented line below a comment takes the daemon down, whether the file is
named or not, while without the comment the file is refused with an error.
White space that makes no indent takes it down as well.
-/
theorem configuration_aborts_below_comment :
    let indented := workplace "  Autodetect off\n"
    let commented := workplace "# local domains\n  Autodetect off\n"
    let fed := workplace "Store mail.list\n\t\x0cAutodetect off\n"
    readCommand indented ["domainlistd", "--config", "domainlist.conf"] =
        .failed (.unreadable "domainlist.conf" (.startedIndented 0)) ∧
      readCommand commented ["domainlistd", "--config", "domainlist.conf"] = .aborted ∧
      readCommand commented ["domainlistd"] = .aborted ∧
      Options.ofFile commented "domainlist.conf" = .aborted ∧
      readCommand fed ["domainlistd", "--config", "domainlist.conf"] = .aborted := by
  refine ⟨?_, ?_, ?_, ?_, ?_⟩ <;> decide +kernel

end Daemon

end MailHost
