/-!
# Command lines

Options go by a long name after two hyphens or, some of them, by a letter after
one.  Letters may share a word.  An option that takes an argument has it in the
rest of its word or, without one, in the next word, whatever that looks like.
Words that are no options are passed over, and two hyphens end the options.
-/

namespace MailHost.CommandLine

structure OptionSpec where
  letter? : Option Char
  name : String
  /-- What its argument is called; an option without takes no argument. -/
  argument? : Option String
  /-- The lines of its description. -/
  description : List String

/-- An option as it was given, by its long name. -/
structure Given where
  name : String
  argument? : Option String
  deriving DecidableEq, Repr

/-- Why a command line is refused; options are named as they were written. -/
inductive UsageError where
  | argumentMissing (option : String)
  | unrecognizedOption (option : String)
  | optionDuplicated (option : String)
  | unexpectedArgument (option : String)
  deriving DecidableEq, Repr

def UsageError.message : UsageError → String
  | .argumentMissing option => "Argument to option '" ++ option ++ "' missing"
  | .unrecognizedOption option => "Unrecognized option: '" ++ option ++ "'"
  | .optionDuplicated option => "Option '" ++ option ++ "' given more than once"
  | .unexpectedArgument option => "Option '" ++ option ++ "' does not take an argument"

namespace OptionSpec

def takesArgument (spec : OptionSpec) : Bool := spec.argument?.isSome

def given (spec : OptionSpec) (argument? : Option String) : Given := ⟨spec.name, argument?⟩

def hasLetter (spec : OptionSpec) (letter : Char) : Bool := spec.letter? = some letter

/-- Whether the option goes by a name after two hyphens.  A letter counts there too. -/
def hasName (spec : OptionSpec) (name : List Char) : Bool :=
  match name with
  | [letter] =>
      if letter.toNat < 128 then spec.hasLetter letter else spec.name.toList = name
  | _ => spec.name.toList = name

end OptionSpec

/-! ## Words -/

/--
What a word with options says: the options it gives, and one it leaves without
its argument, with the name it was written by.
-/
structure Reading where
  given : List Given
  waiting? : Option (OptionSpec × String)

def Reading.after (first : Given) (reading : Reading) : Reading :=
  { reading with given := first :: reading.given }

/-- Read the letters that follow one hyphen. -/
def readLetters (specs : List OptionSpec) : List Char → Except UsageError Reading
  | [] => .ok ⟨[], none⟩
  | letter :: rest =>
      match specs.find? (·.hasLetter letter) with
      | none => .error (.unrecognizedOption (String.singleton letter))
      | some spec =>
          if spec.takesArgument then
            if rest.isEmpty then .ok ⟨[], some (spec, String.singleton letter)⟩
            else .ok ⟨[spec.given (some (String.ofList rest))], none⟩
          else
            match readLetters specs rest with
            | .error e => .error e
            | .ok reading => .ok (reading.after (spec.given none))

/-- Read what follows two hyphens: a name, perhaps with an argument after an equals sign. -/
def readName (specs : List OptionSpec) (text : List Char) : Except UsageError Reading :=
  let name := text.takeWhile (· ≠ '=')
  let argument? := (text.dropWhile (· ≠ '=')).tail?.map String.ofList
  match specs.find? (·.hasName name) with
  | none => .error (.unrecognizedOption (String.ofList name))
  | some spec =>
      if spec.takesArgument then
        match argument? with
        | none => .ok ⟨[], some (spec, String.ofList name)⟩
        | some argument => .ok ⟨[spec.given (some argument)], none⟩
      else
        match argument? with
        | none => .ok ⟨[spec.given none], none⟩
        | some _ => .error (.unexpectedArgument (String.ofList name))

def readWord (specs : List OptionSpec) (word : String) : Except UsageError Reading :=
  match word.toList with
  | '-' :: '-' :: text => readName specs text
  | '-' :: letters => readLetters specs letters
  | _ => .ok ⟨[], none⟩

/-! ## Lines -/

def readWords (specs : List OptionSpec) : List String → Except UsageError (List Given)
  | [] => .ok []
  | word :: rest =>
      if word = "--" then .ok []
      else
        match readWord specs word with
        | .error e => .error e
        | .ok ⟨given, none⟩ =>
            match readWords specs rest with
            | .error e => .error e
            | .ok later => .ok (given ++ later)
        | .ok ⟨given, some (spec, written)⟩ =>
            match rest with
            | [] => .error (.argumentMissing written)
            | argument :: rest =>
                match readWords specs rest with
                | .error e => .error e
                | .ok later => .ok (given ++ spec.given (some argument) :: later)

def timesGiven (given : List Given) (name : String) : Nat :=
  given.countP fun option => option.name = name

/-- The options on a command line; none may be given twice. -/
def parse (specs : List OptionSpec) (words : List String) : Except UsageError (List Given) :=
  match readWords specs words with
  | .error e => .error e
  | .ok given =>
      match specs.find? fun spec => 1 < timesGiven given spec.name with
      | some spec => .error (.optionDuplicated spec.name)
      | none => .ok given

def isGiven (given : List Given) (name : String) : Bool :=
  given.any fun option => option.name = name

def argument? (given : List Given) (name : String) : Option String :=
  (given.find? fun option => option.name = name).bind (·.argument?)

/-!
## Usage

The text that explains the options of a program: a headline and a row for each
option, with the descriptions in a column of their own.
-/

def descriptionColumn : Nat := 24

def blanks (count : Nat) : String :=
  String.ofList (List.replicate count ' ')

/-- The end of a line, and the blanks before the descriptions on the next. -/
def continuation : String := "\n" ++ blanks descriptionColumn

def OptionSpec.synopsis (spec : OptionSpec) : String :=
  let letter :=
    match spec.letter? with
    | some letter => "-" ++ String.singleton letter ++ ", "
    | none => blanks 4
  let argument :=
    match spec.argument? with
    | some argument => argument
    | none => ""
  blanks 4 ++ letter ++ "--" ++ spec.name ++ " " ++ argument

/-- A text filled up to the descriptions, which a longer text moves to the next line. -/
def padded (text : String) : String :=
  if text.length < descriptionColumn then text ++ blanks (descriptionColumn - text.length)
  else text ++ continuation

def OptionSpec.row (spec : OptionSpec) : String :=
  padded spec.synopsis ++ String.intercalate continuation spec.description

def usage (headline : String) (specs : List OptionSpec) : String :=
  headline ++ "\n\nOptions:\n" ++ String.intercalate "\n" (specs.map OptionSpec.row) ++ "\n"

end MailHost.CommandLine
