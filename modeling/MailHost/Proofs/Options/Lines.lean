import MailHost.Options
import MailHost.Proofs.LetterCase
import MailHost.Proofs.Outline
import MailHost.Proofs.Text

/-!
# Options on lines

How the values of options are written, and how each is written on a line behind
its key.
-/

namespace MailHost

/-!
## Values of options

A flag is read from each of its words in any letter case, and names are read
from a row of them with commas and blanks in between.  A value without white
space at its ends keeps its line ends apart: no carriage return is its last.
-/

namespace Text

/-- A text that is trimmed already does not end in a carriage return. -/
theorem getLast?_ne_return {text : List Char} (trimmed : trim text = text) :
    text.getLast? ≠ some '\r' := by
  intro last
  rw [← trimmed] at last
  exact absurd (isBlank_of_getLast?_trim last) (by decide)

end Text

namespace Options

/-! ### Flags -/

def flagWords : Bool → List String
  | true => onWords
  | false => offWords

/-- A word stands for a flag, in whatever letter case. -/
def SpellsFlag (word : String) (flag : Bool) : Prop :=
  ∃ small ∈ flagWords flag, word.toList.map Char.toLower = small.toList

section

variable {word : String} {flag : Bool}

/-- The characters of such words are letters and digits of ASCII. -/
theorem SpellsFlag.bounds (spells : SpellsFlag word flag) :
    ∀ c ∈ word.toList, 48 ≤ c.toNat ∧ c.toNat ≤ 122 := by
  obtain ⟨small, among, same⟩ := spells
  have all : ∀ small ∈ flagWords flag,
      (small.toList.all fun c => 48 ≤ c.toNat ∧ c.toNat ≤ 122) = true := by
    cases flag <;> decide
  intro c member
  have lowered : c.toLower ∈ small.toList := same ▸ List.mem_map_of_mem member
  have bounds := of_decide_eq_true (List.all_eq_true.mp (all small among) _ lowered)
  cases capital : c.isUpper with
  | false => rwa [Text.toLower_of_isUpper_eq_false capital] at bounds
  | true =>
      have within := Text.isUpper_eq_true_iff.mp capital
      omega

theorem SpellsFlag.ne_empty (spells : SpellsFlag word flag) : word ≠ "" := by
  rintro rfl
  obtain ⟨small, among, same⟩ := spells
  have all : ∀ small ∈ flagWords flag, small.toList ≠ [] := by
    cases flag <;> decide
  exact all small among same.symm

theorem SpellsFlag.lower_trimmed (spells : SpellsFlag word flag) :
    Text.lower (trimmed word) ∈ flagWords flag := by
  have bounds := spells.bounds
  have inked : ∀ c ∈ word.toList, Text.isBlank c = false := by
    intro c member
    rw [← Bool.not_eq_true]
    intro blank
    have outside := Text.bounds_of_isBlank blank
    have inside := bounds c member
    omega
  have plain : ∀ c ∈ word.toList, Text.spelled c = id c := by
    intro c member
    have inside := bounds c member
    exact Text.spelled_of_not_foreign (Nat.not_le.mpr (by omega))
  have unforeign : ∀ c ∈ word.toList, ¬ Text.Foreign (Text.spelled c) := by
    intro c member
    have inside := bounds c member
    rw [plain c member]
    exact Nat.not_le.mpr (show c.toNat < 128 by omega)
  obtain ⟨small, among, same⟩ := spells
  have read : Text.lower (trimmed word) = small := by
    rw [trimmed, Text.trim_eq_self inked, String.ofList_toList, Text.lower,
      Text.lowerAfter_of_not_foreign unforeign, List.map_congr_left plain, List.map_id, same,
      String.ofList_toList]
  rw [read]
  exact among

theorem flag?_of_spellsFlag (spells : SpellsFlag word flag) : flag? word = some flag := by
  have apart : ∀ small ∈ offWords, ¬ onWords.contains small = true := by decide
  rw [flag?]
  cases flag with
  | true =>
      have among : Text.lower (trimmed word) ∈ onWords := spells.lower_trimmed
      rw [if_pos (List.contains_iff_mem.mpr among)]
  | false =>
      have among : Text.lower (trimmed word) ∈ offWords := spells.lower_trimmed
      rw [if_neg (apart _ among), if_pos (List.contains_iff_mem.mpr among)]

end

/-! ### Names -/

def listed (text : List Char) : List (List Char) :=
  ((text.splitOn ',').map Text.trim).filter fun name => !name.isEmpty

theorem listed_cons_space (text : List Char) : listed (' ' :: text) = listed text := by
  rw [listed, listed, List.splitOn_cons_eq_if_modifyHead, if_neg (by decide)]
  cases text.splitOn ',' with
  | nil => rfl
  | cons first rest =>
      rw [List.modifyHead_cons, List.map_cons, List.map_cons, Text.trim_cons_blank (by decide)]

theorem listed_append_comma (before after : List Char) :
    listed (before ++ ',' :: after) = listed before ++ listed after := by
  simp [listed, List.splitOn_append_cons_self]

theorem listed_name {name : List Char} (single : ',' ∉ name) (trimmed : Text.trim name = name)
    (inked : name ≠ []) : listed name = [name] := by
  rw [listed, List.splitOn_eq_singleton single, List.map_singleton, trimmed]
  simp [inked]

/-- Names with commas and blanks between them are read as they are. -/
theorem listed_intercalate {names : List (List Char)}
    (fit : ∀ name ∈ names, ',' ∉ name ∧ Text.trim name = name ∧ name ≠ []) :
    listed ([',', ' '].intercalate names) = names := by
  induction names with
  | nil => rfl
  | cons name rest ih =>
      obtain ⟨⟨single, trimmed, inked⟩, later⟩ := List.forall_mem_cons.mp fit
      cases rest with
      | nil => rw [List.intercalate_singleton, listed_name single trimmed inked]
      | cons next others =>
          rw [List.intercalate_cons_cons, List.append_assoc, List.cons_append, List.cons_append,
            List.nil_append, listed_append_comma, listed_cons_space, ih later,
            listed_name single trimmed inked, List.singleton_append]

end Options

/-!
## Options on lines

An option is written on a line behind its key, and an outline has from that line
a field with just this key and value.  Lines that are blank, comments or have
other keys give no option, whichever way they end.
-/

/-! ### Lines with options -/

inductive OptionKey where
  | autodetect
  | autodetectIp
  | defaultDomain
  | domainNames
  deriving DecidableEq

namespace OptionKey

def name : OptionKey → String
  | .autodetect => "Autodetect"
  | .autodetectIp => "AutodetectIP"
  | .defaultDomain => "DefaultDomain"
  | .domainNames => "DomainNames"

/-- The text behind the key of an option; each flag goes by a word for it. -/
def value (options : Options) (word wordIp : String) : OptionKey → String
  | .autodetect => word
  | .autodetectIp => wordIp
  | .defaultDomain => options.defaultDomain
  | .domainNames => String.intercalate ", " options.domainNames

def line (key : OptionKey) (value : String) : List Char :=
  key.name.toList ++ ' ' :: value.toList

theorem name_inj {first second : OptionKey} : first.name = second.name ↔ first = second := by
  cases first <;> cases second <;> decide

theorem letters_of_mem_name {key : OptionKey} {c : Char} (member : c ∈ key.name.toList) :
    65 ≤ c.toNat ∧ c.toNat ≤ 122 := by
  have all : (key.name.toList.all fun c => 65 ≤ c.toNat ∧ c.toNat ≤ 122) = true := by
    cases key <;> decide
  exact of_decide_eq_true (List.all_eq_true.mp all c member)

theorem exists_cons_name (key : OptionKey) : ∃ first rest, key.name.toList = first :: rest ∧
    Text.isBlank first = false ∧ Outline.isAsciiBlank first = false ∧ first ≠ '#' := by
  cases key <;> exact ⟨_, _, rfl, by decide, by decide, by decide⟩

section

variable (key : OptionKey) (value : String)

theorem unindented_line : Outline.Unindented (key.line value) := by
  obtain ⟨first, rest, written, _, ink, _⟩ := key.exists_cons_name
  rw [line, written, List.cons_append]
  exact Outline.unindented_cons.mpr ink

theorem readField_line : Outline.readField (key.line value) =
    ⟨key.name, if value.toList.isEmpty then none else some value⟩ := by
  have apart : ∀ c ∈ key.name.toList, decide (c ≠ ' ') = true := by
    intro c member
    have letter := letters_of_mem_name member
    rw [decide_eq_true_eq]
    rintro rfl
    exact absurd letter.1 (by decide)
  rw [Outline.readField, line, List.takeWhile_append_of_pos apart,
    List.dropWhile_append_of_pos apart]
  simp

theorem topField?_line : Outline.topField? (key.line value) =
    some ⟨key.name, if value.toList.isEmpty then none else some value⟩ := by
  obtain ⟨first, rest, written, ink, _, mark⟩ := key.exists_cons_name
  have shown :
      ¬ ((key.line value).all Text.isBlank = true ∨ (key.line value).head? = some '#') := by
    rw [line, written]
    simp [ink, mark]
  rw [Outline.topField?, if_neg shown, readField_line]

theorem fieldAt?_line (other : OptionKey) :
    Outline.fieldAt? other.name (key.line value) =
      if key = other then some ⟨key.name, if value.toList.isEmpty then none else some value⟩
      else none := by
  rw [Outline.fieldAt?, topField?_line, Option.filter_some]
  simp only [name_inj, decide_eq_true_eq]

end

end OptionKey

/-! ### Other lines -/

open Outline

/-- A line that has no indent and gives no option. -/
structure Inert (line : List Char) : Prop where
  flush : Flush line
  fieldAt? : ∀ key : OptionKey, fieldAt? key.name line = none

namespace Inert

variable {line : List Char}

theorem of_topField? (flush : Flush line) (fieldless : topField? line = none) : Inert line := by
  refine ⟨flush, fun key => ?_⟩
  rw [Outline.fieldAt?, fieldless]
  rfl

theorem of_blank (blank : line.all Text.isBlank = true) : Inert line :=
  of_topField? (Or.inl blank) (if_pos (Or.inl blank))

theorem of_comment (comment : line.head? = some '#') : Inert line := by
  refine of_topField? (Or.inr ?_) (if_pos (Or.inr comment))
  intro c first
  rw [comment] at first
  cases first
  decide

theorem of_other (unindented : Unindented line)
    (foreign : ∀ key : OptionKey, (readField line).key ≠ key.name) : Inert line := by
  refine ⟨Or.inr unindented, fun key => ?_⟩
  rw [Outline.fieldAt?, topField?]
  split
  · rfl
  · rw [Option.filter_some, if_neg]
    simpa using foreign key

end Inert

/--
A line that gives no option: it is blank, it is a comment, or it has another
key.  A carriage return at its end may be part of the line end.
-/
inductive Bystander : List Char → Prop where
  | blank {line : List Char} (blank : line.all Text.isBlank = true) : Bystander line
  | comment (text : List Char) : Bystander ('#' :: text)
  | field {line : List Char} (unindented : Unindented line)
      (foreign : ∀ key : OptionKey, (readField (Text.dropReturn line)).key ≠ key.name) :
      Bystander line

namespace Bystander

/-- A carriage return at the end of a line makes its key no key of an option. -/
theorem readField_concat_ne {line : List Char}
    (foreign : ∀ key : OptionKey, (readField line).key ≠ key.name) (key : OptionKey) :
    (readField (line ++ ['\r'])).key ≠ key.name := by
  intro same
  rw [readField, List.takeWhile_append] at same
  simp only at same
  split at same
  · have spelled := congrArg String.toList same
    rw [String.toList_ofList] at spelled
    have returned : '\r' ∈ key.name.toList := by simp [← spelled]
    have letter := OptionKey.letters_of_mem_name returned
    exact absurd letter.1 (by decide)
  · exact foreign key same

/-- A bystander is inert whether or not the carriage return at its end is dropped. -/
theorem inert {line : List Char} (bystander : Bystander line) :
    Inert line ∧ Inert (Text.dropReturn line) := by
  cases bystander with
  | blank blank =>
      refine ⟨.of_blank blank, .of_blank ?_⟩
      rcases Text.eq_dropReturn_or line with same | longer
      · rwa [← same]
      · rw [longer, List.all_append, Bool.and_eq_true] at blank
        exact blank.1
  | comment text =>
      refine ⟨.of_comment rfl, .of_comment ?_⟩
      rcases Text.eq_dropReturn_or ('#' :: text) with same | longer
      · rw [← same]
        rfl
      · cases dropped : Text.dropReturn ('#' :: text) with
        | nil =>
            rw [dropped] at longer
            cases longer
        | cons c rest =>
            rw [dropped] at longer
            cases longer
            rfl
  | field unindented foreign =>
      rcases Text.eq_dropReturn_or line with same | longer
      · rw [← same] at foreign ⊢
        exact ⟨.of_other unindented foreign, .of_other unindented foreign⟩
      · refine ⟨.of_other unindented ?_, .of_other ?_ foreign⟩
        · rw [longer]
          exact readField_concat_ne foreign
        · intro c first
          refine unindented c ?_
          rw [longer, List.head?_append, first]
          rfl

end Bystander

end MailHost
