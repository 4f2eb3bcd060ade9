import MailHost.Outline

/-!
# Reading outlines

Which texts are read as outlines without ado, and which ones abort the reader.
-/

namespace MailHost.Outline

/-!
## Outlines without indents

A text none of whose lines is indented is an outline, whatever the lines are:
each that is neither blank nor a comment is a field, and they stay in order.
-/

/-- A line starts with no white space that would make an indent. -/
def Unindented (line : List Char) : Prop :=
  ∀ c, line.head? = some c → isAsciiBlank c = false

/-- A line is blank, or it is not indented. -/
def Flush (line : List Char) : Prop :=
  line.all Text.isBlank = true ∨ Unindented line

/-- The field on a line without indent, unless it is blank or a comment. -/
def topField? (line : List Char) : Option Field :=
  if line.all Text.isBlank = true ∨ line.head? = some '#' then none else some (readField line)

theorem unindented_cons {c : Char} {rest : List Char} :
    Unindented (c :: rest) ↔ isAsciiBlank c = false := by
  simp [Unindented]

/-- A line that is not indented is one more line at the top. -/
theorem push_of_flush (progress : Progress) (number : Nat) {line : List Char}
    (flush : Flush line) :
    ∃ next, progress.push number line = .value next ∧
      next.fields = (topField? line).toList ++ progress.fields := by
  rw [Progress.push, topField?]
  by_cases blank : line.all Text.isBlank = true
  · exact ⟨_, if_pos blank, by simp [blank]⟩
  · have unindented : Unindented line := flush.resolve_left blank
    cases line with
    | nil => exact absurd rfl blank
    | cons c rest =>
        have ink := unindented_cons.mp unindented
        rw [if_neg blank, List.takeWhile_cons_of_neg (by simp [ink]),
          List.dropWhile_cons_of_neg (by simp [ink])]
        refine ⟨progress.pushTop (c :: rest), rfl, ?_⟩
        rw [Progress.pushTop]
        by_cases comment : (c :: rest).head? = some '#'
        · rw [if_pos comment, if_pos (Or.inr comment)]
          rfl
        · rw [if_neg comment, if_neg (not_or.mpr ⟨blank, comment⟩)]
          rfl

theorem readLines_of_flush {lines : List (List Char)} (flush : ∀ line ∈ lines, Flush line)
    (number : Nat) (progress : Progress) :
    ∃ final, readLines number progress lines = .value final ∧
      final.fields = (lines.filterMap topField?).reverse ++ progress.fields := by
  induction lines generalizing number progress with
  | nil => exact ⟨progress, rfl, rfl⟩
  | cons line rest ih =>
      obtain ⟨here, later⟩ := List.forall_mem_cons.mp flush
      obtain ⟨next, pushed, taken⟩ := push_of_flush progress number here
      obtain ⟨final, read, fields⟩ := ih later (number + 1) next
      refine ⟨final, ?_, ?_⟩
      · rw [readLines, pushed]
        exact read
      · rw [fields, taken, List.filterMap_cons]
        cases topField? line <;> simp

/-- A text without indents is an outline of the fields on its lines. -/
theorem parse_of_flush {text : String} (flush : ∀ line ∈ Text.lines text.toList, Flush line) :
    parse text = .value ⟨(Text.lines text.toList).filterMap topField?⟩ := by
  obtain ⟨final, read, fields⟩ := readLines_of_flush flush 0 .start
  rw [parse, read]
  simp [fields, Progress.start]

def fieldAt? (key : String) (line : List Char) : Option Field :=
  (topField? line).filter fun field => field.key = key

/-- The value at a key is that of the first line with this key. -/
theorem value?_eq_head? (lines : List (List Char)) (key : String) :
    (Outline.mk (lines.filterMap topField?)).value? key =
      (lines.filterMap (fieldAt? key)).head?.bind (·.value?) := by
  rw [value?, ← List.head?_filter, List.filter_filterMap]
  rfl

/-!
## Texts that abort the reader of outlines

The reader goes down the lines of a text and ends at the first one that it
cannot take in.  For most such lines there is an error.  The reader aborts where
an indent has white space that makes no indent, and at an indented line that has
only blank lines and comments above it.
-/

/-! ### Indents -/

def indentOf (line : List Char) : List Char :=
  line.takeWhile isAsciiBlank

def IndentKind.mark : IndentKind → Char
  | .tabs => '\t'
  | .spaces => ' '

/-- Characters of one kind come before one that makes no indent. -/
inductive Strange (kind : IndentKind) : List Char → Prop where
  | here {c : Char} (rest : List Char) (noSpace : c ≠ ' ') (noTab : c ≠ '\t') :
      Strange kind (c :: rest)
  | later {rest : List Char} (strange : Strange kind rest) : Strange kind (kind.mark :: rest)

def Uniform (indent : List Char) : Prop :=
  indent ≠ [] ∧ ∃ kind : IndentKind, ∀ c ∈ indent, c = kind.mark

@[simp]
theorem kindOf?_mark (kind : IndentKind) : kindOf? kind.mark = some kind := by
  cases kind <;> rfl

theorem kindOf?_eq_none_iff {c : Char} : kindOf? c = none ↔ c ≠ ' ' ∧ c ≠ '\t' := by
  unfold kindOf?
  by_cases space : c = ' '
  · simp [space]
  · by_cases tab : c = '\t' <;> simp [space, tab]

theorem mark_or_kindOf? (c : Char) : (∃ kind : IndentKind, c = kind.mark) ∨ kindOf? c = none := by
  by_cases space : c = ' '
  · exact Or.inl ⟨.spaces, space⟩
  · by_cases tab : c = '\t'
    · exact Or.inl ⟨.tabs, tab⟩
    · exact Or.inr (kindOf?_eq_none_iff.mpr ⟨space, tab⟩)

theorem mark_inj {kind other : IndentKind} : kind.mark = other.mark ↔ kind = other := by
  constructor
  · intro same
    have kinds := congrArg kindOf? same
    rw [kindOf?_mark, kindOf?_mark] at kinds
    exact Option.some.inj kinds
  · exact congrArg IndentKind.mark

theorem strange_cons_of_kindOf? {c : Char} (unmarked : kindOf? c = none) (kind : IndentKind)
    (rest : List Char) : Strange kind (c :: rest) :=
  .here rest (kindOf?_eq_none_iff.mp unmarked).1 (kindOf?_eq_none_iff.mp unmarked).2

theorem strange_mark_cons_iff {kind other : IndentKind} {rest : List Char} :
    Strange kind (other.mark :: rest) ↔ other = kind ∧ Strange kind rest := by
  constructor
  · intro strange
    generalize spelled : other.mark :: rest = indent at strange
    cases strange with
    | here more noSpace noTab =>
        obtain ⟨rfl, rfl⟩ := List.cons.inj spelled
        have unmarked := kindOf?_eq_none_iff.mpr ⟨noSpace, noTab⟩
        rw [kindOf?_mark] at unmarked
        cases unmarked
    | later strange =>
        obtain ⟨mark, rfl⟩ := List.cons.inj spelled
        exact ⟨mark_inj.mp mark, strange⟩
  · rintro ⟨rfl, strange⟩
    exact .later strange

/-! ### Reading an indent -/

section

variable (number : Nat) (kind other : IndentKind) (width : Nat) (indent : List Char)

theorem continueIndent_mark_cons :
    continueIndent number kind width (other.mark :: indent) =
      if other = kind then continueIndent number kind (width + 1) indent
      else .failed (.mixedIndent number) := by
  simp only [continueIndent, kindOf?_mark]

theorem continueIndent_of_kindOf? {c : Char} (unmarked : kindOf? c = none) :
    continueIndent number kind width (c :: indent) = .aborted := by
  simp only [continueIndent, unmarked]

theorem readIndent_mark_cons :
    readIndent number (kind.mark :: indent) =
      (continueIndent number kind 1 indent >>= fun read => .value (some read)) := by
  simp only [readIndent, kindOf?_mark]
  cases continueIndent number kind 1 indent <;> rfl

theorem readIndent_of_kindOf? {c : Char} (unmarked : kindOf? c = none) :
    readIndent number (c :: indent) = .aborted := by
  simp only [readIndent, unmarked]

theorem continueIndent_eq_aborted_iff :
    continueIndent number kind width indent = .aborted ↔ Strange kind indent := by
  induction indent generalizing width with
  | nil => exact ⟨nofun, nofun⟩
  | cons c rest ih =>
      rcases mark_or_kindOf? c with ⟨other, rfl⟩ | unmarked
      · rw [continueIndent_mark_cons, strange_mark_cons_iff]
        by_cases same : other = kind
        · rw [if_pos same, ih]
          exact (and_iff_right same).symm
        · rw [if_neg same]
          exact ⟨nofun, fun ⟨again, _⟩ => absurd again same⟩
      · rw [continueIndent_of_kindOf? _ _ _ _ unmarked]
        exact ⟨fun _ => strange_cons_of_kindOf? unmarked kind rest, fun _ => rfl⟩

theorem continueIndent_eq_value_iff :
    (∃ read, continueIndent number kind width indent = .value read) ↔
      ∀ c ∈ indent, c = kind.mark := by
  induction indent generalizing width with
  | nil => exact ⟨fun _ => nofun, fun _ => ⟨_, rfl⟩⟩
  | cons c rest ih =>
      rw [List.forall_mem_cons]
      rcases mark_or_kindOf? c with ⟨other, rfl⟩ | unmarked
      · rw [continueIndent_mark_cons, mark_inj]
        by_cases same : other = kind
        · rw [if_pos same, ih]
          exact (and_iff_right same).symm
        · rw [if_neg same]
          exact ⟨nofun, fun ⟨again, _⟩ => absurd again same⟩
      · rw [continueIndent_of_kindOf? _ _ _ _ unmarked]
        refine ⟨nofun, ?_⟩
        rintro ⟨rfl, _⟩
        rw [kindOf?_mark] at unmarked
        cases unmarked

theorem readIndent_eq_aborted_iff :
    readIndent number indent = .aborted ↔ ∃ kind, Strange kind indent := by
  cases indent with
  | nil => exact ⟨nofun, nofun⟩
  | cons c rest =>
      rcases mark_or_kindOf? c with ⟨kind, rfl⟩ | unmarked
      · rw [readIndent_mark_cons]
        simp only [strange_mark_cons_iff, exists_eq_left']
        rw [← continueIndent_eq_aborted_iff number kind 1 rest]
        cases continueIndent number kind 1 rest <;> simp
      · rw [readIndent_of_kindOf? _ _ unmarked]
        exact ⟨fun _ => ⟨.tabs, strange_cons_of_kindOf? unmarked .tabs rest⟩, fun _ => rfl⟩

theorem readIndent_eq_none_iff : readIndent number indent = .value none ↔ indent = [] := by
  cases indent with
  | nil => exact ⟨fun _ => rfl, fun _ => rfl⟩
  | cons c rest =>
      refine ⟨?_, nofun⟩
      rcases mark_or_kindOf? c with ⟨kind, rfl⟩ | unmarked
      · rw [readIndent_mark_cons]
        cases continueIndent number kind 1 rest <;> simp
      · rw [readIndent_of_kindOf? _ _ unmarked]
        exact nofun

theorem readIndent_eq_some_iff :
    (∃ read, readIndent number indent = .value (some read)) ↔ Uniform indent := by
  cases indent with
  | nil => simp [readIndent, Uniform]
  | cons c rest =>
      unfold Uniform
      simp only [ne_eq, reduceCtorEq, not_false_eq_true, true_and, List.forall_mem_cons]
      rcases mark_or_kindOf? c with ⟨kind, rfl⟩ | unmarked
      · simp only [readIndent_mark_cons, mark_inj, exists_eq_left']
        rw [← continueIndent_eq_value_iff number kind 1 rest]
        cases continueIndent number kind 1 rest <;> simp
      · rw [readIndent_of_kindOf? _ _ unmarked]
        refine ⟨nofun, ?_⟩
        rintro ⟨kind, rfl, _⟩
        rw [kindOf?_mark] at unmarked
        cases unmarked

end

/-! ### Taking in lines -/

section

variable (progress : Progress) (number : Nat)

theorem pushBelow_eq_aborted_iff (indent : Indent) (text : List Char) :
    progress.pushBelow number indent text = .aborted ↔
      progress.started = true ∧ progress.fields = [] := by
  unfold Progress.pushBelow
  cases progress.started with
  | false => simp
  | true =>
      cases progress.fields with
      | nil => simp
      | cons field others =>
          cases attach number indent progress.indents with
          | error cause => simp
          | ok attached => by_cases comment : text.head? = some '#' <;> simp [comment]

/-- A line aborts the reader by what its indent is made of, or by having nothing to belong to. -/
theorem push_eq_aborted_iff (line : List Char) :
    progress.push number line = .aborted ↔
      ¬ line.all Text.isBlank = true ∧
        ((∃ kind, Strange kind (indentOf line)) ∨
          Uniform (indentOf line) ∧ progress.started = true ∧ progress.fields = []) := by
  unfold Progress.push
  by_cases blank : line.all Text.isBlank = true
  · simp [blank]
  · rw [if_neg blank, and_iff_right blank, ← readIndent_eq_aborted_iff number,
      ← readIndent_eq_some_iff number]
    unfold indentOf
    cases readIndent number (line.takeWhile isAsciiBlank) with
    | aborted => simp
    | failed cause => simp
    | value read =>
        cases read with
        | none => simp
        | some indent => simp [pushBelow_eq_aborted_iff]

end

/-- An indented line that is taken in has a field above it, and leaves the fields at the top. -/
theorem pushBelow_eq_value {progress next : Progress} {number : Nat} {indent : Indent}
    {text : List Char} (pushed : progress.pushBelow number indent text = .value next) :
    progress.started = true ∧ progress.fields ≠ [] ∧
      ∃ indents, next = { progress with indents } := by
  obtain ⟨fields, started, indents⟩ := progress
  unfold Progress.pushBelow at pushed
  cases started with
  | false => cases pushed
  | true =>
      cases fields with
      | nil => cases pushed
      | cons field others =>
          refine ⟨rfl, List.cons_ne_nil field others, ?_⟩
          cases attached : attach number indent indents with
          | error cause => simp [attached] at pushed
          | ok deeper =>
              by_cases comment : text.head? = some '#'
              · simp only [attached, comment] at pushed
                cases pushed
                exact ⟨indents, rfl⟩
              · simp only [attached, comment] at pushed
                cases pushed
                exact ⟨deeper, rfl⟩

/-- A line that is taken in is blank, stands at the top or belongs to a field above it. -/
theorem push_cases {progress next : Progress} {number : Nat} {line : List Char}
    (pushed : progress.push number line = .value next) :
    (line.all Text.isBlank = true ∧ next = { progress with started := true }) ∨
      (¬ line.all Text.isBlank = true ∧ next = progress.pushTop line) ∨
      progress.started = true ∧ progress.fields ≠ [] ∧
        ∃ indents, next = { progress with indents } := by
  unfold Progress.push at pushed
  by_cases blank : line.all Text.isBlank = true
  · rw [if_pos blank] at pushed
    cases pushed
    exact Or.inl ⟨blank, rfl⟩
  · rw [if_neg blank] at pushed
    cases read : readIndent number (line.takeWhile isAsciiBlank) with
    | aborted => simp [read] at pushed
    | failed cause => simp [read] at pushed
    | value indent? =>
        cases indent? with
        | none =>
            -- Without an indent the whole line is what goes to the top.
            have unindented := (readIndent_eq_none_iff number _).mp read
            have whole : line.dropWhile isAsciiBlank = line := by
              have split := List.takeWhile_append_dropWhile (p := isAsciiBlank) (l := line)
              rwa [unindented] at split
            simp only [read, whole] at pushed
            cases pushed
            exact Or.inr (Or.inl ⟨blank, rfl⟩)
        | some indent =>
            simp only [read] at pushed
            exact Or.inr (Or.inr (pushBelow_eq_value pushed))

theorem topField?_eq_none_iff {line : List Char} :
    topField? line = none ↔ line.all Text.isBlank = true ∨ line.head? = some '#' := by
  unfold topField?
  by_cases hidden : line.all Text.isBlank = true ∨ line.head? = some '#'
  · rw [if_pos hidden]
    exact iff_of_true rfl hidden
  · rw [if_neg hidden]
    exact iff_of_false (Option.some_ne_none _) hidden

/-- Once a line is taken in there is one; it brings the first field if it has one at the top. -/
theorem push_eq_value {progress next : Progress} {number : Nat} {line : List Char}
    (pushed : progress.push number line = .value next) :
    next.started = true ∧
      (next.fields = [] ↔ progress.fields = [] ∧ topField? line = none) := by
  rw [topField?_eq_none_iff]
  rcases push_cases pushed with ⟨blank, rfl⟩ | ⟨inked, rfl⟩ | ⟨started, fielded, indents, rfl⟩
  · exact ⟨rfl, (and_iff_left (Or.inl blank)).symm⟩
  · unfold Progress.pushTop
    by_cases comment : line.head? = some '#'
    · simp [comment]
    · simp [comment, inked]
  · exact ⟨started, fun empty => absurd empty fielded, And.left⟩

/-! ### The first line that aborts -/

/-- Some lines are taken in one after the other. -/
def Readable (lines : List (List Char)) : Prop :=
  ∃ progress, readLines 0 .start lines = .value progress

/-- What the lines taken in have left, in terms of the lines themselves. -/
theorem readLines_eq_value {lines : List (List Char)} {number : Nat} {progress final : Progress}
    (read : readLines number progress lines = .value final) :
    (final.started = true ↔ progress.started = true ∨ lines ≠ []) ∧
      (final.fields = [] ↔ progress.fields = [] ∧ ∀ line ∈ lines, topField? line = none) := by
  induction lines generalizing number progress with
  | nil =>
      cases read
      simp
  | cons line rest ih =>
      unfold readLines at read
      cases pushed : progress.push number line with
      | aborted => simp [pushed] at read
      | failed cause => simp [pushed] at read
      | value next =>
          simp only [pushed] at read
          obtain ⟨started, fields⟩ := push_eq_value pushed
          obtain ⟨finalStarted, finalFields⟩ := ih read
          constructor
          · simp [finalStarted, started]
          · rw [finalFields, fields, List.forall_mem_cons, and_assoc]

/-- The reader aborts just if it takes in some first lines and aborts at the next one. -/
theorem readLines_eq_aborted_iff (lines : List (List Char)) (number : Nat) (progress : Progress) :
    readLines number progress lines = .aborted ↔
      ∃ above line below reached, lines = above ++ line :: below ∧
        readLines number progress above = .value reached ∧
        reached.push (number + above.length) line = .aborted := by
  induction lines generalizing number progress with
  | nil => simp [readLines]
  | cons line rest ih =>
      constructor
      · intro aborted
        unfold readLines at aborted
        cases pushed : progress.push number line with
        | aborted => exact ⟨[], line, rest, progress, rfl, rfl, pushed⟩
        | failed cause => simp [pushed] at aborted
        | value next =>
            simp only [pushed] at aborted
            obtain ⟨above, last, below, reached, whole, read, ends⟩ := (ih _ _).mp aborted
            refine ⟨line :: above, last, below, reached, by rw [whole, List.cons_append], ?_, ?_⟩
            · simp only [readLines, pushed, read]
            · rwa [List.length_cons, Nat.add_comm above.length, ← Nat.add_assoc]
      · rintro ⟨above, last, below, reached, whole, read, ends⟩
        unfold readLines
        -- The line in question is the first one, or it is further down.
        cases above with
        | nil =>
            cases read
            obtain ⟨rfl, rfl⟩ := List.cons.inj whole
            simp only [List.length_nil, Nat.add_zero] at ends
            simp only [ends]
        | cons first more =>
            obtain ⟨rfl, rfl⟩ := List.cons.inj whole
            unfold readLines at read
            cases pushed : progress.push number line with
            | aborted => rfl
            | failed cause => simp [pushed] at read
            | value next =>
                simp only [pushed] at read ⊢
                apply (ih _ _).mpr
                refine ⟨more, last, below, reached, rfl, read, ?_⟩
                rwa [List.length_cons, Nat.add_comm more.length, ← Nat.add_assoc] at ends

/--
A line that the reader aborts at below some others: it is not blank, and its
indent is strange, or it is indented and what is above it are lines without a field.
-/
inductive AbortsBelow (above : List (List Char)) (line : List Char) : Prop where
  | strange {kind : IndentKind} (inked : ¬ line.all Text.isBlank = true)
      (strange : Strange kind (indentOf line)) : AbortsBelow above line
  | orphaned (inked : ¬ line.all Text.isBlank = true) (uniform : Uniform (indentOf line))
      (nonempty : above ≠ [])
      (fieldless : ∀ other ∈ above, other.all Text.isBlank = true ∨ other.head? = some '#') :
      AbortsBelow above line

/-- A text that aborts the reader: it has such a line, and the ones above it are taken in. -/
def Spoilt (text : String) : Prop :=
  ∃ above line below, Text.lines text.toList = above ++ line :: below ∧
    Readable above ∧ AbortsBelow above line

theorem push_eq_aborted_iff_abortsBelow {above : List (List Char)} {reached : Progress}
    (read : readLines 0 .start above = .value reached) (number : Nat) (line : List Char) :
    reached.push number line = .aborted ↔ AbortsBelow above line := by
  obtain ⟨started, fields⟩ := readLines_eq_value read
  have nonempty : reached.started = true ↔ above ≠ [] := by simp [started, Progress.start]
  have fieldless : reached.fields = [] ↔
      ∀ other ∈ above, other.all Text.isBlank = true ∨ other.head? = some '#' := by
    simp [fields, Progress.start, topField?_eq_none_iff]
  rw [push_eq_aborted_iff, nonempty, fieldless]
  constructor
  · rintro ⟨inked, ⟨kind, strange⟩ | ⟨uniform, nonempty, fieldless⟩⟩
    · exact .strange inked strange
    · exact .orphaned inked uniform nonempty fieldless
  · intro aborts
    cases aborts with
    | strange inked strange => exact ⟨inked, Or.inl ⟨_, strange⟩⟩
    | orphaned inked uniform nonempty fieldless =>
        exact ⟨inked, Or.inr ⟨uniform, nonempty, fieldless⟩⟩

/-- The reader of outlines aborts on the spoilt texts alone. -/
theorem parse_eq_aborted_iff (text : String) : parse text = .aborted ↔ Spoilt text := by
  have whole : parse text = .aborted ↔
      readLines 0 .start (Text.lines text.toList) = .aborted := by
    unfold parse
    cases readLines 0 .start (Text.lines text.toList) <;> simp
  rw [whole, readLines_eq_aborted_iff]
  constructor
  · rintro ⟨above, line, below, reached, split, read, aborted⟩
    exact ⟨above, line, below, split, ⟨reached, read⟩,
      (push_eq_aborted_iff_abortsBelow read _ line).mp aborted⟩
  · rintro ⟨above, line, below, split, ⟨reached, read⟩, aborts⟩
    exact ⟨above, line, below, reached, split, read,
      (push_eq_aborted_iff_abortsBelow read _ line).mpr aborts⟩

end MailHost.Outline
