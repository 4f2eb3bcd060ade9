import MailHost.FileTree
import MailHost.Text

/-!
# Outlines

An outline is a text of fields, one a line: a key, a space and a value.  An
indented field belongs to one above it, and a line that starts with a number
sign is a comment.  Only the fields at the top are kept, but an indent that does
not fit the lines above it spoils the whole outline.
-/

namespace MailHost

/-!
## Outcomes

A computation that can give up has three endings: a value, an error that is
told to the caller, and an abort that takes the caller down as well.
-/

inductive Outcome (ε α : Type) where
  | value (value : α)
  | failed (error : ε)
  | aborted
  deriving DecidableEq, Repr

namespace Outcome

variable {ε δ α β : Type}

def bind (first : Outcome ε α) (next : α → Outcome ε β) : Outcome ε β :=
  match first with
  | .value a => next a
  | .failed e => .failed e
  | .aborted => .aborted

instance : Monad (Outcome ε) where
  pure := value
  bind := bind

def ofExcept : Except ε α → Outcome ε α
  | .ok a => .value a
  | .error e => .failed e

def mapError (change : ε → δ) : Outcome ε α → Outcome δ α
  | .value a => .value a
  | .failed e => .failed (change e)
  | .aborted => .aborted

/-- Go on without a value after an error. -/
def orNone : Outcome ε α → Outcome δ (Option α)
  | .value a => .value (some a)
  | .failed _ => .value none
  | .aborted => .aborted

@[simp]
theorem pure_eq_value (a : α) : (pure a : Outcome ε α) = value a := rfl

@[simp]
theorem value_bind (a : α) (next : α → Outcome ε β) : (value a >>= next) = next a := rfl

@[simp]
theorem failed_bind (e : ε) (next : α → Outcome ε β) : (failed e >>= next) = failed e := rfl

@[simp]
theorem aborted_bind (next : α → Outcome ε β) : ((aborted : Outcome ε α) >>= next) = aborted := rfl

end Outcome

/-! ## Outlines -/

structure Field where
  key : String
  value? : Option String
  deriving DecidableEq, Repr

/-- The fields at the top of a text, in order. -/
structure Outline where
  fields : List Field
  deriving DecidableEq, Repr

/-- Why a text is no outline; lines count from zero. -/
inductive OutlineError where
  | startedIndented (line : Nat)
  | mixedIndent (line : Nat)
  | tabsWithSpaces (line : Nat)
  | spacesWithTabs (line : Nat)
  | notOpened
  deriving DecidableEq, Repr

def OutlineError.message : OutlineError → String
  | .startedIndented line =>
      "Cannot start document with an indented section. Line " ++ toString line
  | .mixedIndent line => "Indent mixed between tabs and spaces on line " ++ toString line
  | .tabsWithSpaces line => "Tabular indent in space block. Line " ++ toString line
  | .spacesWithTabs line => "Space indent in tab block. Line " ++ toString line
  | .notOpened => "Failed to open file!"

namespace Outline

def value? (outline : Outline) (key : String) : Option String :=
  (outline.fields.find? fun field => field.key = key).bind (·.value?)

/-! ## Indents -/

inductive IndentKind where
  | tabs
  | spaces
  deriving DecidableEq, Repr

/-- An indent: one or more characters of a kind. -/
structure Indent where
  kind : IndentKind
  width : Nat
  deriving DecidableEq, Repr

def isAsciiBlank (c : Char) : Bool :=
  c = ' ' || c = '\t' || c = '\n' || c = '\r' || c = '\x0c'

def kindOf? (c : Char) : Option IndentKind :=
  if c = ' ' then some .spaces else if c = '\t' then some .tabs else none

/--
Read the rest of an indent whose kind and width so far are known.  White space
that makes no indent aborts.
-/
def continueIndent (line : Nat) (kind : IndentKind) :
    Nat → List Char → Outcome OutlineError Indent
  | width, [] => .value ⟨kind, width⟩
  | width, c :: rest =>
      match kindOf? c with
      | none => .aborted
      | some other =>
          if other = kind then continueIndent line kind (width + 1) rest
          else .failed (.mixedIndent line)

def readIndent (line : Nat) : List Char → Outcome OutlineError (Option Indent)
  | [] => .value none
  | c :: rest =>
      match kindOf? c with
      | none => .aborted
      | some kind =>
          match continueIndent line kind 1 rest with
          | .value indent => .value (some indent)
          | .failed e => .failed e
          | .aborted => .aborted

/--
The indents from the first field below the last top field to the last field
read: each belongs to the last field below the one before.  A new line is held
against them, and takes the place of the first that is as wide, and of all
after it.
-/
def attach (line : Nat) (indent : Indent) :
    List Indent → Except OutlineError (List Indent)
  | [] => .ok [indent]
  | other :: deeper =>
      if other.kind = indent.kind then
        if other.width = indent.width then .ok [indent]
        else
          match attach line indent deeper with
          | .error e => .error e
          | .ok attached => .ok (other :: attached)
      else
        match indent.kind with
        | .tabs => .error (.tabsWithSpaces line)
        | .spaces => .error (.spacesWithTabs line)

/-! ## Reading -/

structure Progress where
  /-- The top fields, the last one first. -/
  fields : List Field
  /-- Whether any line stands at the top, blank ones and comments counting. -/
  started : Bool
  /-- The indents below the last top field. -/
  indents : List Indent

def Progress.start : Progress := ⟨[], false, []⟩

def readField (text : List Char) : Field :=
  let value := (text.dropWhile (· ≠ ' ')).drop 1
  { key := String.ofList (text.takeWhile (· ≠ ' '))
    value? := if value.isEmpty then none else some (String.ofList value) }

def Progress.pushTop (progress : Progress) (text : List Char) : Progress :=
  if text.head? = some '#' then { progress with started := true }
  else { fields := readField text :: progress.fields, started := true, indents := [] }

/--
Take in a line with an indent.  Something must stand above it; if that is no
field, the reader aborts.
-/
def Progress.pushBelow (progress : Progress) (line : Nat) (indent : Indent)
    (text : List Char) : Outcome OutlineError Progress :=
  if !progress.started then .failed (.startedIndented line)
  else if progress.fields.isEmpty then .aborted
  else
    match attach line indent progress.indents with
    | .error e => .failed e
    | .ok attached =>
        if text.head? = some '#' then .value progress
        else .value { progress with indents := attached }

def Progress.push (progress : Progress) (line : Nat) (text : List Char) :
    Outcome OutlineError Progress :=
  if text.all Text.isBlank then .value { progress with started := true }
  else
    let rest := text.dropWhile isAsciiBlank
    match readIndent line (text.takeWhile isAsciiBlank) with
    | .aborted => .aborted
    | .failed e => .failed e
    | .value none => .value (progress.pushTop rest)
    | .value (some indent) => progress.pushBelow line indent rest

def readLines : Nat → Progress → List (List Char) → Outcome OutlineError Progress
  | _, progress, [] => .value progress
  | line, progress, text :: rest =>
      match progress.push line text with
      | .value next => readLines (line + 1) next rest
      | .failed e => .failed e
      | .aborted => .aborted

def parse (text : String) : Outcome OutlineError Outline :=
  match readLines 0 .start (Text.lines text.toList) with
  | .value progress => .value ⟨progress.fields.reverse⟩
  | .failed e => .failed e
  | .aborted => .aborted

def parseFile (tree : FileTree) (path : String) : Outcome OutlineError Outline :=
  match tree.readText path with
  | .error _ => .failed .notOpened
  | .ok text => parse text

end Outline

end MailHost
