import MailHost.Text

/-!
# Texts and their lines

What trimming leaves, and how texts that were put together from lines or other
pieces come apart again.
-/

namespace MailHost.Text

/-!
## White space around texts

A trimmed text neither starts nor ends with white space, and any text that does
neither is trimmed already.  White space put around a text is trimmed with what
was there before, and the carriage return of a line end is white space too.
-/

theorem bounds_of_isBlank {c : Char} (blank : isBlank c = true) :
    c.toNat ≤ 32 ∨ 128 ≤ c.toNat := by
  simp only [isBlank, Bool.or_eq_true, Bool.and_eq_true, decide_eq_true_eq, Char.le_def,
    UInt32.le_iff_toNat_le] at blank
  rcases blank with
    (((((((((rfl | controls) | rfl) | rfl) | rfl) | spaces) | rfl) | rfl) | rfl) | rfl) | rfl
  any_goals decide
  · have high : c.val.toNat ≤ 13 := controls.2
    exact Or.inl (Nat.le_trans high (by decide))
  · have low : 8192 ≤ c.val.toNat := spaces.1
    exact Or.inr (Nat.le_trans (by decide) low)

/-! ### White space at the ends -/

theorem trim_cons_blank {c : Char} (blank : isBlank c = true) (text : List Char) :
    trim (c :: text) = trim text := by
  rw [trim, trim, trimStart, trimStart, List.dropWhile_cons_of_pos blank]

theorem trim_append_blank (text : List Char) {c : Char} (blank : isBlank c = true) :
    trim (text ++ [c]) = trim text := by
  rw [trim, trim, trimStart, trimStart, List.dropWhile_append]
  cases kept : text.dropWhile isBlank with
  | nil => simp [blank]
  | cons first rest =>
      rw [List.isEmpty_cons, if_neg Bool.false_ne_true, trimEnd, List.reverse_append,
        List.reverse_singleton, List.singleton_append, List.dropWhile_cons_of_pos blank]
      rfl

/-- White space around a text does not count, whatever the text starts and ends with itself. -/
theorem trim_pad {before after : List Char} (blankBefore : before.all isBlank = true)
    (blankAfter : after.all isBlank = true) (text : List Char) :
    trim (before ++ text ++ after) = trim text := by
  induction after generalizing text with
  | nil =>
      rw [List.append_nil]
      induction before with
      | nil => rfl
      | cons c rest ih =>
          rw [List.all_cons, Bool.and_eq_true] at blankBefore
          rw [List.cons_append, trim_cons_blank blankBefore.1]
          exact ih blankBefore.2
  | cons c rest ih =>
      rw [List.all_cons, Bool.and_eq_true] at blankAfter
      have regrouped : before ++ text ++ c :: rest = before ++ (text ++ [c]) ++ rest := by simp
      rw [regrouped, ih blankAfter.2, trim_append_blank text blankAfter.1]

/-- The carriage return at the end of a line is white space like any other. -/
theorem trim_dropReturn (line : List Char) : trim (dropReturn line) = trim line := by
  rw [dropReturn]
  by_cases ended : line.getLast? = some '\r'
  · obtain ⟨text, rfl⟩ := List.getLast?_eq_some_iff.mp ended
    rw [if_pos ended, List.dropLast_concat]
    exact (trim_append_blank text (by decide)).symm
  · rw [if_neg ended]

/-! ### Trimmed texts -/

theorem dropWhile_isBlank_of_head? {text : List Char}
    (inked : ∀ c, text.head? = some c → isBlank c = false) : text.dropWhile isBlank = text := by
  cases text with
  | nil => rfl
  | cons first rest =>
      have visible := inked first rfl
      exact List.dropWhile_cons_of_neg (by rw [visible]; decide)

/-- A text with ink at both ends is trimmed already. -/
theorem trim_eq_self_of_ends {text : List Char}
    (start : ∀ c, text.head? = some c → isBlank c = false)
    (last : ∀ c, text.getLast? = some c → isBlank c = false) : trim text = text := by
  have backwards : text.reverse.dropWhile isBlank = text.reverse := by
    apply dropWhile_isBlank_of_head?
    intro c first
    rw [List.head?_reverse] at first
    exact last c first
  rw [trim, trimStart, dropWhile_isBlank_of_head? start, trimEnd, backwards, List.reverse_reverse]

theorem trim_eq_self {text : List Char} (inked : ∀ c ∈ text, isBlank c = false) :
    trim text = text :=
  trim_eq_self_of_ends (fun c first => inked c (List.mem_of_head? first))
    fun c last => inked c (List.mem_of_getLast? last)

/-- What stands before a text without white space is trimmed at its start only. -/
theorem trim_append {text : List Char} (inked : ∀ c ∈ text, isBlank c = false)
    (nonempty : text ≠ []) (before : List Char) :
    trim (before ++ text) = trimStart before ++ text := by
  have forwards : text.dropWhile isBlank = text :=
    dropWhile_isBlank_of_head? fun c first => inked c (List.mem_of_head? first)
  have backwards : text.reverse.dropWhile isBlank = text.reverse := by
    apply dropWhile_isBlank_of_head?
    intro c first
    exact inked c (List.mem_reverse.mp (List.mem_of_head? first))
  have start : trimStart (before ++ text) = trimStart before ++ text := by
    rw [trimStart, trimStart, List.dropWhile_append, forwards]
    cases before.dropWhile isBlank <;> rfl
  rw [trim, start, trimEnd, List.reverse_append, List.dropWhile_append, backwards]
  simp [nonempty]

theorem isBlank_of_head?_trimStart {text : List Char} {c : Char}
    (first : (trimStart text).head? = some c) : isBlank c = false := by
  have stopped := List.head?_dropWhile_not isBlank text
  rw [← trimStart, first] at stopped
  exact stopped

theorem isBlank_of_getLast?_trim {text : List Char} {c : Char}
    (last : (trim text).getLast? = some c) : isBlank c = false := by
  have stopped := List.head?_dropWhile_not isBlank (trimStart text).reverse
  rw [trim, trimEnd, List.getLast?_reverse] at last
  rw [last] at stopped
  exact stopped

/-- A trimmed text starts as the text does behind its white space. -/
theorem trim_opens (text : List Char) : trim text <+: trimStart text := by
  rw [trim, trimEnd, ← List.reverse_suffix, List.reverse_reverse]
  exact List.dropWhile_suffix isBlank

theorem isBlank_of_head?_trim {text : List Char} {c : Char}
    (first : (trim text).head? = some c) : isBlank c = false := by
  obtain ⟨rest, whole⟩ := trim_opens text
  have start : (trimStart text).head? = some c := by
    rw [← whole, List.head?_append, first]
    rfl
  exact isBlank_of_head?_trimStart start

theorem trim_trim (text : List Char) : trim (trim text) = trim text :=
  trim_eq_self_of_ends (fun _ first => isBlank_of_head?_trim first)
    fun _ last => isBlank_of_getLast?_trim last

/-!
## Pieces with a separator between them

A character of a separated text is one of the separator or of a piece, and the
text ends as one of its pieces does.
-/

theorem mem_of_mem_intercalate {between : List Char} {c : Char} {pieces : List (List Char)}
    (member : c ∈ between.intercalate pieces) :
    c ∈ between ∨ ∃ piece ∈ pieces, c ∈ piece := by
  induction pieces with
  | nil => cases member
  | cons piece rest ih =>
      cases rest with
      | nil =>
          rw [List.intercalate_singleton] at member
          exact Or.inr ⟨piece, List.mem_cons_self .., member⟩
      | cons next others =>
          rw [List.intercalate_cons_cons, List.mem_append, List.mem_append] at member
          rcases member with (here | mark) | later
          · exact Or.inr ⟨piece, List.mem_cons_self .., here⟩
          · exact Or.inl mark
          · refine (ih later).imp id ?_
            rintro ⟨other, listed, inside⟩
            exact ⟨other, List.mem_cons_of_mem piece listed, inside⟩

theorem intercalate_ne_nil {between piece : List Char} {rest : List (List Char)}
    (inked : piece ≠ []) : between.intercalate (piece :: rest) ≠ [] := by
  cases rest with
  | nil => rwa [List.intercalate_singleton]
  | cons next others =>
      rw [List.intercalate_cons_cons, List.append_assoc]
      exact List.append_ne_nil_of_left_ne_nil inked _

theorem getLast?_intercalate (between : List Char) {pieces : List (List Char)}
    (inked : ∀ piece ∈ pieces, piece ≠ []) (nonempty : pieces ≠ []) :
    ∃ piece ∈ pieces, (between.intercalate pieces).getLast? = piece.getLast? := by
  induction pieces with
  | nil => exact absurd rfl nonempty
  | cons piece rest ih =>
      cases rest with
      | nil => exact ⟨piece, List.mem_cons_self .., by rw [List.intercalate_singleton]⟩
      | cons next others =>
          obtain ⟨_, later⟩ := List.forall_mem_cons.mp inked
          obtain ⟨last, listed, same⟩ := ih later (List.cons_ne_nil next others)
          refine ⟨last, List.mem_cons_of_mem piece listed, ?_⟩
          have ends : (between.intercalate (next :: others)).getLast? ≠ none := by
            rw [Ne, List.getLast?_eq_none_iff]
            exact intercalate_ne_nil (later next (List.mem_cons_self ..))
          obtain ⟨c, found⟩ := Option.ne_none_iff_exists'.mp ends
          rw [List.intercalate_cons_cons, List.getLast?_append, found, Option.some_or, ← found,
            same]

/-!
## Lines put together

A text that was put together from lines has these lines again, each line end
being a line feed with or without a carriage return before it.  Only a carriage
return that a line ends with itself may be lost, if a mere line feed follows it.
-/

/-- A text of some lines with their line ends.  The last line may go without one. -/
inductive Joined : List (List Char) → List Char → Prop where
  | empty : Joined [] []
  | last (line : List Char) : Joined [line] line
  | feed (line : List Char) {rest : List (List Char)} {text : List Char}
      (joined : Joined rest text) : Joined (line :: rest) (line ++ '\n' :: text)
  | returnFeed (line : List Char) {rest : List (List Char)} {text : List Char}
      (joined : Joined rest text) : Joined (line :: rest) (line ++ '\r' :: '\n' :: text)

theorem dropReturn_concat (line : List Char) : dropReturn (line ++ ['\r']) = line := by
  rw [dropReturn, if_pos List.getLast?_concat, List.dropLast_concat]

/-- At most a carriage return is dropped from the end of a line. -/
theorem eq_dropReturn_or (line : List Char) :
    line = dropReturn line ∨ line = dropReturn line ++ ['\r'] := by
  by_cases last : line.getLast? = some '\r'
  · obtain ⟨text, rfl⟩ := List.getLast?_eq_some_iff.mp last
    exact Or.inr (by rw [dropReturn_concat])
  · exact Or.inl (if_neg last).symm

theorem lines_of_line {line : List Char} (single : '\n' ∉ line) (inked : line ≠ []) :
    lines line = [line] := by
  rw [lines, List.splitOn_eq_singleton single, ended,
    if_neg fun empty => inked (List.isEmpty_iff.mp empty)]

theorem lines_append_feed {line : List Char} (single : '\n' ∉ line) (rest : List Char) :
    lines (line ++ '\n' :: rest) = dropReturn line :: lines rest := by
  obtain ⟨next, others, cut⟩ := List.exists_cons_of_ne_nil (List.splitOn_ne_nil '\n' rest)
  rw [lines, lines, List.splitOn_append_cons_self, List.splitOn_eq_singleton single, cut]
  rfl

/--
What is read off each line is read off the text, where nothing is read off an
empty line, and the same off a line whether or not it ends in a carriage return.
-/
theorem filterMap_lines_of_joined {α : Type} {parts : List (List Char)} {text : List Char}
    (joined : Joined parts text) (single : ∀ line ∈ parts, '\n' ∉ line)
    {read : List Char → Option α} (empty : read [] = none)
    (same : ∀ line ∈ parts, read (dropReturn line) = read line) :
    (lines text).filterMap read = parts.filterMap read := by
  induction joined with
  | empty => rfl
  | last line =>
      by_cases blank : line = []
      · rw [blank, lines_nil, List.filterMap_cons_none empty]
      · rw [lines_of_line (single line (List.mem_singleton_self line)) blank]
  | feed line joined ih =>
      obtain ⟨here, later⟩ := List.forall_mem_cons.mp single
      obtain ⟨sameHere, sameLater⟩ := List.forall_mem_cons.mp same
      rw [lines_append_feed here, List.filterMap_cons, List.filterMap_cons, sameHere,
        ih later sameLater]
  | returnFeed line joined ih =>
      obtain ⟨here, later⟩ := List.forall_mem_cons.mp single
      have ended : '\n' ∉ line ++ ['\r'] := by
        simpa using here
      have regrouped : ∀ rest, line ++ '\r' :: '\n' :: rest = (line ++ ['\r']) ++ '\n' :: rest := by
        simp
      rw [regrouped, lines_append_feed ended, dropReturn_concat, List.filterMap_cons,
        List.filterMap_cons, ih later (List.forall_mem_cons.mp same).2]

/-- What holds of the lines a text was made of, with and without a return, holds of its lines. -/
theorem forall_mem_lines_of_joined {parts : List (List Char)} {text : List Char}
    (joined : Joined parts text) (single : ∀ line ∈ parts, '\n' ∉ line)
    {Holds : List Char → Prop} (empty : Holds [])
    (each : ∀ line ∈ parts, Holds line ∧ Holds (dropReturn line)) :
    ∀ line ∈ lines text, Holds line := by
  classical
  -- What is read off a line here is that it fails.
  let failure : List Char → Option Unit := fun line => if Holds line then none else some ()
  have none_of : ∀ {line}, Holds line → failure line = none := fun holds => if_pos holds
  have failures : (lines text).filterMap failure = parts.filterMap failure := by
    refine filterMap_lines_of_joined joined single (none_of empty) ?_
    intro line member
    rw [none_of (each line member).1, none_of (each line member).2]
  have noFailure : parts.filterMap failure = [] :=
    List.filterMap_eq_nil_iff.mpr fun line member => none_of (each line member).1
  intro line member
  have found := List.filterMap_eq_nil_iff.mp (failures.trans noFailure) line member
  by_cases holds : Holds line
  · exact holds
  · rw [show failure line = some () from if_neg holds] at found
    cases found

/-!
## Line ends of two characters

On the wire a line ends with a carriage return and a line feed.  Cut at these
line ends, a text that was put together around one comes apart in the same
place, whatever stands on either side of it.
-/

/-- The pieces of a text between its line ends. -/
def pieces : List Char → List (List Char)
  | [] => [[]]
  | '\r' :: '\n' :: rest => [] :: pieces rest
  | c :: rest => (pieces rest).modifyHead (c :: ·)

def HasLineEnd (text : List Char) : Prop :=
  ['\r', '\n'] <:+: text

instance (text : List Char) : Decidable (HasLineEnd text) :=
  inferInstanceAs (Decidable (_ <:+: _))

theorem pieces_cons {c : Char} {rest : List Char} (apart : ¬ ['\r', '\n'] <+: c :: rest) :
    pieces (c :: rest) = (pieces rest).modifyHead (c :: ·) := by
  apply pieces.eq_3
  rintro others rfl rfl
  exact apart ⟨others, rfl⟩

theorem pieces_ne_nil (text : List Char) : pieces text ≠ [] := by
  induction text using pieces.induct with
  | case1 => exact List.cons_ne_nil _ _
  | case2 rest ih => exact List.cons_ne_nil _ _
  | case3 c rest apart ih =>
      rw [pieces.eq_3 c rest apart]
      cases cut : pieces rest with
      | nil => exact absurd cut ih
      | cons first others => exact List.cons_ne_nil _ _

theorem pieces_append (left right : List Char) :
    pieces (left ++ '\r' :: '\n' :: right) = pieces left ++ pieces right := by
  induction left using pieces.induct with
  | case1 => rfl
  | case2 rest ih =>
      change [] :: pieces (rest ++ '\r' :: '\n' :: right) = [] :: (pieces rest ++ pieces right)
      rw [ih]
  | case3 c rest apart ih =>
      have still : ∀ others, c = '\r' → rest ++ '\r' :: '\n' :: right = '\n' :: others → False := by
        intro others first next
        cases rest with
        | nil => cases next
        | cons d more =>
            cases next
            exact apart more first rfl
      rw [List.cons_append, pieces.eq_3 _ _ still, pieces.eq_3 c rest apart, ih]
      cases cut : pieces rest with
      | nil => exact absurd cut (pieces_ne_nil rest)
      | cons first others => rfl

theorem pieces_of_not_hasLineEnd {text : List Char} (unbroken : ¬ HasLineEnd text) :
    pieces text = [text] := by
  induction text with
  | nil => rfl
  | cons c rest ih =>
      rw [HasLineEnd, List.infix_cons_iff, not_or] at unbroken
      rw [pieces_cons unbroken.1, ih unbroken.2]
      rfl

/-- What is between two line ends is a piece. -/
theorem mem_pieces_between {line : List Char} (unbroken : ¬ HasLineEnd line)
    (before after : List Char) :
    line ∈ pieces (before ++ '\r' :: '\n' :: (line ++ '\r' :: '\n' :: after)) := by
  rw [pieces_append, pieces_append, pieces_of_not_hasLineEnd unbroken]
  exact List.mem_append_right _ (List.mem_append_left _ (List.mem_singleton_self line))

/-- A text with a line end has at least two pieces. -/
theorem exists_pieces_of_hasLineEnd {text : List Char} (broken : HasLineEnd text) :
    ∃ first second others, pieces text = first :: second :: others := by
  obtain ⟨left, right, rfl⟩ := broken
  obtain ⟨first, more, leftCut⟩ := List.exists_cons_of_ne_nil (pieces_ne_nil left)
  obtain ⟨next, others, rightCut⟩ := List.exists_cons_of_ne_nil (pieces_ne_nil right)
  have cut : pieces (left ++ ['\r', '\n'] ++ right) = first :: (more ++ next :: others) := by
    rw [List.append_assoc]
    exact (pieces_append left right).trans (by rw [leftCut, rightCut, List.cons_append])
  cases more with
  | nil => exact ⟨first, next, others, cut⟩
  | cons second rest => exact ⟨first, second, rest ++ next :: others, cut⟩

/-- Text without a carriage return belongs to the first piece of what it is put before. -/
theorem pieces_append_of_not_mem {front : List Char} (plain : '\r' ∉ front) (text : List Char) :
    pieces (front ++ text) = (pieces text).modifyHead (front ++ ·) := by
  induction front with
  | nil => cases cut : pieces text <;> simp [cut]
  | cons c rest ih =>
      rw [List.mem_cons, not_or] at plain
      have apart : ¬ ['\r', '\n'] <+: c :: (rest ++ text) :=
        fun opens => plain.1 (List.cons_prefix_cons.mp opens).1
      rw [List.cons_append, pieces_cons apart, ih plain.2]
      cases pieces text <;> rfl

theorem hasLineEnd_append_left_iff {front : List Char} (noReturn : '\r' ∉ front)
    (text : List Char) : HasLineEnd (front ++ text) ↔ HasLineEnd text := by
  induction front with
  | nil => rfl
  | cons c rest ih =>
      rw [List.mem_cons, not_or] at noReturn
      have apart : ¬ ['\r', '\n'] <+: c :: (rest ++ text) :=
        fun opens => noReturn.1 (List.cons_prefix_cons.mp opens).1
      rw [← ih noReturn.2, List.cons_append, HasLineEnd, List.infix_cons_iff]
      exact or_iff_right apart

theorem hasLineEnd_append_right_iff {back : List Char} (noFeed : '\n' ∉ back)
    (text : List Char) : HasLineEnd (text ++ back) ↔ HasLineEnd text := by
  constructor
  · intro broken
    rcases List.infix_append_iff.mp broken with
      inside | after | ⟨first, second, split, ends, starts⟩
    · exact inside
    · exact absurd (after.subset (by simp)) noFeed
    · rcases List.eq_nil_or_concat second with rfl | ⟨more, last, rfl⟩
      · rw [List.append_nil] at split
        rw [← split] at ends
        exact ends.isInfix
      · -- The line feed would be at the end of what is in the back.
        have feed := congrArg List.getLast? split
        rw [List.concat_eq_append, ← List.append_assoc, List.getLast?_concat] at feed
        cases feed
        exact absurd (starts.subset (by simp)) noFeed
  · exact fun broken => broken.trans (List.prefix_append text back).isInfix

end MailHost.Text
