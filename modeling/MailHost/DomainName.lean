/-!
# Domain names

The grammar of domain names, with the recognisers that it is made of.
-/

namespace MailHost

/-!
## Recognisers

A rule takes what it matches off the start of a text.  Alternatives are
ordered, repetition is greedy, and neither is taken back later.
-/

namespace Grammar

/-- What is left after the match, if the text starts with one. -/
abbrev Rule := List Char → Option (List Char)

def one (accepted : Char → Bool) : Rule
  | [] => none
  | c :: rest => if accepted c then some rest else none

/-- The first rule and then, on what it leaves, the second. -/
def andThen (first second : Rule) : Rule := fun text =>
  match first text with
  | none => none
  | some rest => second rest

/-- The second rule where the first does not match. -/
def orElse (first second : Rule) : Rule := fun text =>
  match first text with
  | none => second text
  | some rest => some rest

def manyUpTo (rule : Rule) : Nat → Rule
  | 0, text => some text
  | bound + 1, text =>
      match rule text with
      | none => some text
      | some rest => manyUpTo rule bound rest

/--
A rule as often as it matches.  A rule that always takes a character cannot
match more often than the text is long.
-/
def many (rule : Rule) : Rule := fun text =>
  manyUpTo rule text.length text

def many1 (rule : Rule) : Rule :=
  andThen rule (many rule)

def matchesAll (rule : Rule) (text : List Char) : Bool :=
  match rule text with
  | some [] => true
  | _ => false

end Grammar

/-!
## Domain names

A domain name is a row of labels with dots between them.  A label is made of
letters, digits and hyphens, and starts and ends with a letter or digit.  Case
is not considered, and an address in brackets is no name.
-/

namespace DomainName

open MailHost.Grammar

def letDig : Rule := one Char.isAlphanum

/-- A letter or digit, which any number of hyphens may precede. -/
def labelTail : Rule :=
  orElse letDig (andThen (many1 (one (· = '-'))) letDig)

def label : Rule :=
  andThen letDig (many labelTail)

/-- One or more labels with dots between them. -/
def name : Rule :=
  andThen label (many (andThen (one (· = '.')) label))

def isValid (text : String) : Bool :=
  matchesAll name text.toList

end DomainName

end MailHost
