import MailHost.DomainName

/-!
# What domain names are

The rules of the grammar take domain names and nothing else off the start of a
text, and a domain name is a row of labels with dots between them.
-/

namespace MailHost

/-!
## What rules match

A rule takes texts of some kind off the start of a text, and the kinds of
composed rules come from those of their parts.  A rule that takes something
each time it matches is repeated until it no longer does, so the bound on the
number of rounds does not show.
-/

namespace Grammar

/-- All texts that a rule takes are of one kind. -/
def Takes (kind : List Char → Prop) (rule : Rule) : Prop :=
  ∀ text rest, rule text = some rest → ∃ taken, text = taken ++ rest ∧ kind taken

variable {kind single more : List Char → Prop} {rule first second : Rule}

theorem takes_one {accepted : Char → Bool} (fits : ∀ c, accepted c = true → kind [c]) :
    Takes kind (one accepted) := by
  intro text rest matched
  cases text with
  | nil => cases matched
  | cons c tail =>
      by_cases good : accepted c = true
      · have same : tail = rest := by simpa [one, good] using matched
        exact ⟨[c], by rw [same]; rfl, fits c good⟩
      · simp [one, good] at matched

namespace Takes

theorem mono (takes : Takes single rule) (wider : ∀ taken, single taken → kind taken) :
    Takes kind rule := by
  intro text rest matched
  obtain ⟨taken, textEq, fits⟩ := takes text rest matched
  exact ⟨taken, textEq, wider taken fits⟩

theorem andThen (before : Takes single first) (after : Takes more second)
    (join : ∀ left right, single left → more right → kind (left ++ right)) :
    Takes kind (Grammar.andThen first second) := by
  intro text rest matched
  rw [Grammar.andThen] at matched
  cases reached : first text with
  | none => rw [reached] at matched; cases matched
  | some middle =>
      rw [reached] at matched
      obtain ⟨left, textEq, leftFits⟩ := before text middle reached
      obtain ⟨right, middleEq, rightFits⟩ := after middle rest matched
      refine ⟨left ++ right, ?_, join left right leftFits rightFits⟩
      rw [textEq, middleEq, List.append_assoc]

theorem orElse (left : Takes kind first) (right : Takes kind second) :
    Takes kind (Grammar.orElse first second) := by
  intro text rest matched
  rw [Grammar.orElse] at matched
  cases reached : first text with
  | none =>
      rw [reached] at matched
      exact right text rest matched
  | some middle =>
      rw [reached] at matched
      exact left text rest (reached.trans matched)

theorem manyUpTo (once : Takes single rule) (nothing : kind [])
    (join : ∀ left right, single left → kind right → kind (left ++ right)) (bound : Nat) :
    Takes kind (Grammar.manyUpTo rule bound) := by
  induction bound with
  | zero =>
      intro text rest matched
      exact ⟨[], Option.some.inj matched, nothing⟩
  | succ bound ih =>
      intro text rest matched
      rw [Grammar.manyUpTo] at matched
      cases reached : rule text with
      | none =>
          rw [reached] at matched
          exact ⟨[], Option.some.inj matched, nothing⟩
      | some middle =>
          rw [reached] at matched
          obtain ⟨left, textEq, leftFits⟩ := once text middle reached
          obtain ⟨right, middleEq, rightFits⟩ := ih middle rest matched
          refine ⟨left ++ right, ?_, join left right leftFits rightFits⟩
          rw [textEq, middleEq, List.append_assoc]

theorem many (once : Takes single rule) (nothing : kind [])
    (join : ∀ left right, single left → kind right → kind (left ++ right)) :
    Takes kind (Grammar.many rule) :=
  fun text => once.manyUpTo nothing join text.length text

end Takes

theorem matchesAll_eq_true_iff {text : List Char} :
    matchesAll rule text = true ↔ rule text = some [] := by
  rw [matchesAll]
  split
  · rename_i matched
    simp [matched]
  · rename_i different
    simpa using different

/-! ### Repetition without its bound -/

/-- A rule that takes at least one character. -/
def Advances (rule : Rule) : Prop :=
  Takes (· ≠ []) rule

theorem Advances.length_lt (advances : Advances rule) {text rest : List Char}
    (matched : rule text = some rest) : rest.length < text.length := by
  obtain ⟨taken, rfl, something⟩ := advances text rest matched
  have positive := List.length_pos_iff.mpr something
  rw [List.length_append]
  omega

theorem advances_one (accepted : Char → Bool) : Advances (one accepted) :=
  takes_one fun c _ => List.cons_ne_nil c []

theorem Advances.andThen (advances : Advances first) (after : Takes kind second) :
    Advances (Grammar.andThen first second) :=
  Takes.andThen advances after fun _ right something _ =>
    List.append_ne_nil_of_left_ne_nil something right

theorem Advances.manyUpTo_nil (advances : Advances rule) (bound : Nat) :
    manyUpTo rule bound [] = some [] := by
  cases bound with
  | zero => rfl
  | succ bound =>
      cases reached : rule [] with
      | none => rw [manyUpTo, reached]
      | some rest => exact absurd (advances.length_lt reached) (Nat.not_lt_zero _)

/-- A bound that allows a round for each character is as good as any other. -/
theorem Advances.manyUpTo_eq (advances : Advances rule) {text : List Char} {bound other : Nat}
    (enough : text.length ≤ bound) (enoughToo : text.length ≤ other) :
    manyUpTo rule bound text = manyUpTo rule other text := by
  induction bound generalizing text other with
  | zero =>
      rw [List.length_eq_zero_iff.mp (Nat.le_zero.mp enough), advances.manyUpTo_nil,
        advances.manyUpTo_nil]
  | succ bound ih =>
      cases other with
      | zero =>
          rw [List.length_eq_zero_iff.mp (Nat.le_zero.mp enoughToo), advances.manyUpTo_nil,
            advances.manyUpTo_nil]
      | succ other =>
          cases reached : rule text with
          | none => rw [manyUpTo, manyUpTo, reached]
          | some rest =>
              have shorter := advances.length_lt reached
              simp only [manyUpTo, reached]
              apply ih <;> omega

theorem many_of_no_match {text : List Char} (unmatched : rule text = none) :
    many rule text = some text := by
  rw [many]
  cases text.length with
  | zero => rfl
  | succ bound => rw [manyUpTo, unmatched]

/-- A rule that advances goes on with what it leaves. -/
theorem Advances.many_of_match (advances : Advances rule) {text rest : List Char}
    (matched : rule text = some rest) : many rule text = many rule rest := by
  have shorter := advances.length_lt matched
  calc
    many rule text = manyUpTo rule (text.length + 1) text :=
      advances.manyUpTo_eq (Nat.le_refl _) (Nat.le_succ _)
    _ = manyUpTo rule text.length rest := by rw [manyUpTo, matched]
    _ = many rule rest := advances.manyUpTo_eq (Nat.le_of_lt shorter) (Nat.le_refl _)

/-- Of characters, repetition takes the longest row in the class. -/
theorem many_one (accepted : Char → Bool) (text : List Char) :
    many (one accepted) text = some (text.dropWhile accepted) := by
  induction text with
  | nil => rfl
  | cons c rest ih =>
      cases good : accepted c with
      | true =>
          have matched : one accepted (c :: rest) = some rest := if_pos good
          rw [(advances_one accepted).many_of_match matched, ih, List.dropWhile_cons_of_pos good]
      | false =>
          have bad : ¬ accepted c = true := by rw [good]; exact Bool.false_ne_true
          have unmatched : one accepted (c :: rest) = none := if_neg bad
          rw [many_of_no_match unmatched, List.dropWhile_cons_of_neg bad]

/-! ### Rules that do not see a change of characters -/

/-- A rule takes as much of a text whose characters were all changed. -/
def Ignores (change : Char → Char) (rule : Rule) : Prop :=
  ∀ text, rule (text.map change) = (rule text).map (List.map change)

namespace Ignores

variable {change : Char → Char}

theorem one {accepted : Char → Bool} (same : ∀ c, accepted (change c) = accepted c) :
    Ignores change (Grammar.one accepted) := by
  intro text
  cases text with
  | nil => rfl
  | cons c rest =>
      rw [List.map_cons, Grammar.one, Grammar.one, same]
      split <;> rfl

theorem andThen (before : Ignores change first) (after : Ignores change second) :
    Ignores change (Grammar.andThen first second) := by
  intro text
  rw [Grammar.andThen, Grammar.andThen, before]
  cases first text with
  | none => rfl
  | some rest => exact after rest

theorem orElse (left : Ignores change first) (right : Ignores change second) :
    Ignores change (Grammar.orElse first second) := by
  intro text
  rw [Grammar.orElse, Grammar.orElse, left]
  cases first text with
  | none => exact right text
  | some rest => rfl

theorem manyUpTo (once : Ignores change rule) (bound : Nat) :
    Ignores change (Grammar.manyUpTo rule bound) := by
  induction bound with
  | zero => intro text; rfl
  | succ bound ih =>
      intro text
      rw [Grammar.manyUpTo, Grammar.manyUpTo, once]
      cases rule text with
      | none => rfl
      | some rest => exact ih rest

theorem many (once : Ignores change rule) : Ignores change (Grammar.many rule) := by
  intro text
  rw [Grammar.many, Grammar.many, List.length_map]
  exact once.manyUpTo text.length text

theorem matchesAll (ignores : Ignores change rule) (text : List Char) :
    Grammar.matchesAll rule (text.map change) = Grammar.matchesAll rule text := by
  rw [Grammar.matchesAll, Grammar.matchesAll, ignores]
  cases rule text with
  | none => rfl
  | some rest => cases rest <;> rfl

end Ignores

end Grammar

/-!
## The characters of domain names

A rule whose parts take characters of one class takes characters of that class
only.  So a domain name has letters, digits, hyphens and dots, all of them ASCII.
-/

namespace Text

/-! ### Classes of characters by their codes -/

variable {c : Char}

theorem isUpper_eq_true_iff : c.isUpper = true ↔ 65 ≤ c.toNat ∧ c.toNat ≤ 90 :=
  decide_eq_true_iff

theorem isLower_eq_true_iff : c.isLower = true ↔ 97 ≤ c.toNat ∧ c.toNat ≤ 122 :=
  Bool.and_eq_true_iff.trans (and_congr decide_eq_true_iff decide_eq_true_iff)

theorem isDigit_eq_true_iff : c.isDigit = true ↔ 48 ≤ c.toNat ∧ c.toNat ≤ 57 :=
  Bool.and_eq_true_iff.trans (and_congr decide_eq_true_iff decide_eq_true_iff)

theorem isAlphanum_eq_true_iff :
    c.isAlphanum = true ↔ (c.isUpper = true ∨ c.isLower = true) ∨ c.isDigit = true :=
  Bool.or_eq_true_iff.trans (or_congr_left Bool.or_eq_true_iff)

end Text

namespace Grammar

/-- All characters a rule takes off a text are of one class. -/
def TakesOnly (allowed : Char → Bool) (rule : Rule) : Prop :=
  ∀ text rest, rule text = some rest →
    ∃ taken, text = taken ++ rest ∧ ∀ c ∈ taken, allowed c = true

variable {allowed : Char → Bool} {first second rule : Rule}

theorem takesOnly_one {accepted : Char → Bool}
    (within : ∀ c, accepted c = true → allowed c = true) : TakesOnly allowed (one accepted) :=
  takes_one fun c good => List.forall_mem_singleton.mpr (within c good)

theorem TakesOnly.andThen (before : TakesOnly allowed first) (after : TakesOnly allowed second) :
    TakesOnly allowed (Grammar.andThen first second) :=
  Takes.andThen before after fun _ _ left right => List.forall_mem_append.mpr ⟨left, right⟩

theorem TakesOnly.orElse (left : TakesOnly allowed first) (right : TakesOnly allowed second) :
    TakesOnly allowed (Grammar.orElse first second) :=
  Takes.orElse left right

theorem TakesOnly.many (once : TakesOnly allowed rule) : TakesOnly allowed (Grammar.many rule) :=
  Takes.many once (List.forall_mem_nil _) fun _ _ left right =>
    List.forall_mem_append.mpr ⟨left, right⟩

end Grammar

namespace DomainName

open MailHost.Grammar

def isNameCharacter (c : Char) : Bool :=
  c.isAlphanum || c = '-' || c = '.'

theorem name_takesOnly : TakesOnly isNameCharacter name := by
  have letter : TakesOnly isNameCharacter letDig :=
    takesOnly_one fun c good => by simp [isNameCharacter, good]
  have hyphen : TakesOnly isNameCharacter (one (· = '-')) :=
    takesOnly_one fun c good => by simp_all [isNameCharacter]
  have dot : TakesOnly isNameCharacter (one (· = '.')) :=
    takesOnly_one fun c good => by simp_all [isNameCharacter]
  have labelTake : TakesOnly isNameCharacter label :=
    letter.andThen (letter.orElse ((hyphen.andThen hyphen.many).andThen letter)).many
  exact labelTake.andThen (dot.andThen labelTake).many

theorem isValid_eq_true_iff {text : String} :
    isValid text = true ↔ name text.toList = some [] :=
  matchesAll_eq_true_iff

/-- A domain name has letters, digits, hyphens and dots only. -/
theorem isNameCharacter_of_isValid {text : String} (valid : isValid text = true) :
    ∀ c ∈ text.toList, isNameCharacter c = true := by
  have matched := isValid_eq_true_iff.mp valid
  obtain ⟨taken, textEq, takenAllowed⟩ := name_takesOnly text.toList [] matched
  rw [textEq, List.append_nil]
  exact takenAllowed

theorem bounds_of_isNameCharacter {c : Char} (named : isNameCharacter c = true) :
    45 ≤ c.toNat ∧ c.toNat ≤ 122 := by
  simp only [isNameCharacter, Bool.or_eq_true, decide_eq_true_eq] at named
  rcases named with (alphanumeric | rfl) | rfl
  · rw [Text.isAlphanum_eq_true_iff, Text.isUpper_eq_true_iff, Text.isLower_eq_true_iff,
      Text.isDigit_eq_true_iff] at alphanumeric
    omega
  · decide
  · decide

end DomainName

/-!
## The labels of domain names

A text is a domain name just if the pieces between its dots are labels.
Repetition takes back nothing, but what follows a label in a name is a dot or
nothing, and no label has a dot, so nothing is lost by taking all that fits.
-/

namespace DomainName

open MailHost.Grammar

/-! ### Labels -/

def IsLetterOrDigit (c : Char) : Prop :=
  ('a' ≤ c ∧ c ≤ 'z') ∨ ('A' ≤ c ∧ c ≤ 'Z') ∨ ('0' ≤ c ∧ c ≤ '9')

/-- Letters, digits and hyphens, with a letter or digit at each end. -/
structure IsLabel (text : List Char) : Prop where
  nonempty : text ≠ []
  characters : ∀ c ∈ text, IsLetterOrDigit c ∨ c = '-'
  first : ∀ c ∈ text.head?, IsLetterOrDigit c
  last : ∀ c ∈ text.getLast?, IsLetterOrDigit c

def labels (text : String) : List (List Char) :=
  text.toList.splitOn '.'

theorem isAlphanum_iff {c : Char} : c.isAlphanum = true ↔ IsLetterOrDigit c := by
  rw [Text.isAlphanum_eq_true_iff, Text.isUpper_eq_true_iff, Text.isLower_eq_true_iff,
    Text.isDigit_eq_true_iff, or_comm (a := 65 ≤ c.toNat ∧ c.toNat ≤ 90), or_assoc]
  exact Iff.rfl

theorem not_isLetterOrDigit_hyphen : ¬ IsLetterOrDigit '-' := by
  rw [← isAlphanum_iff]
  decide

theorem not_isLetterOrDigit_dot : ¬ IsLetterOrDigit '.' := by
  rw [← isAlphanum_iff]
  decide

theorem IsLabel.not_mem_dot {text : List Char} (label : IsLabel text) : '.' ∉ text := by
  intro member
  rcases label.characters '.' member with letter | hyphen
  · exact not_isLetterOrDigit_dot letter
  · exact absurd hyphen (by decide)

/-! ### The rest of a label -/

/-- What can follow in a label: letters, digits and hyphens, without a hyphen at the end. -/
structure IsTail (text : List Char) : Prop where
  characters : ∀ c ∈ text, IsLetterOrDigit c ∨ c = '-'
  last : ∀ c ∈ text.getLast?, IsLetterOrDigit c

theorem isTail_nil : IsTail [] where
  characters _ member := by cases member
  last _ member := by cases member

theorem IsTail.append {left right : List Char} (before : IsTail left) (after : IsTail right) :
    IsTail (left ++ right) where
  characters c member := (List.mem_append.mp member).elim (before.characters c) (after.characters c)
  last c member := by
    rw [List.getLast?_append] at member
    cases ends : right.getLast? with
    | none =>
        rw [ends] at member
        exact before.last c member
    | some d =>
        rw [ends] at member
        exact after.last c (ends.trans member)

theorem isTail_singleton {c : Char} (letter : IsLetterOrDigit c) : IsTail [c] where
  characters _ member := Or.inl (List.mem_singleton.mp member ▸ letter)
  last _ member := Option.some.inj member ▸ letter

/-- Hyphens are part of a label when a letter or digit comes after them. -/
theorem isTail_hyphens {hyphens : List Char} (only : ∀ c ∈ hyphens, c = '-') {c : Char}
    (letter : IsLetterOrDigit c) : IsTail (hyphens ++ [c]) where
  characters d member := by
    rcases List.mem_append.mp member with hyphen | last
    · exact Or.inr (only d hyphen)
    · exact Or.inl (List.mem_singleton.mp last ▸ letter)
  last d member := by
    rw [List.getLast?_concat] at member
    exact Option.some.inj member ▸ letter

theorem IsTail.of_append {left right : List Char} (tail : IsTail (left ++ right)) :
    IsTail right where
  characters c member := tail.characters c (List.mem_append_right left member)
  last c member := tail.last c (by rw [List.getLast?_append, member]; rfl)

/-- A tail with something in it starts with a letter or digit, which hyphens may precede. -/
theorem IsTail.exists_letter {text : List Char} (tail : IsTail text) (something : text ≠ []) :
    ∃ hyphens c left, text = hyphens ++ c :: left ∧ (∀ d ∈ hyphens, d = '-') ∧
      IsLetterOrDigit c ∧ IsTail left := by
  induction text with
  | nil => exact absurd rfl something
  | cons c rest ih =>
      have follows : IsTail rest := IsTail.of_append (show IsTail ([c] ++ rest) from tail)
      rcases tail.characters c (List.mem_cons_self ..) with letter | rfl
      · exact ⟨[], c, rest, rfl, List.forall_mem_nil _, letter, follows⟩
      · have later : rest ≠ [] := by
          rintro rfl
          exact not_isLetterOrDigit_hyphen (tail.last '-' rfl)
        obtain ⟨hyphens, d, left, rfl, only, letter, leftTail⟩ := ih follows later
        exact ⟨'-' :: hyphens, d, left, rfl, List.forall_mem_cons.mpr ⟨rfl, only⟩, letter, leftTail⟩

theorem IsTail.cons_isLabel {c : Char} {tail : List Char} (letter : IsLetterOrDigit c)
    (follows : IsTail tail) : IsLabel (c :: tail) :=
  have whole := (isTail_singleton letter).append follows
  ⟨List.cons_ne_nil c tail, whole.characters, fun _ same => Option.some.inj same ▸ letter,
    whole.last⟩

theorem IsLabel.exists_cons {text : List Char} (label : IsLabel text) :
    ∃ c tail, text = c :: tail ∧ IsLetterOrDigit c ∧ IsTail tail := by
  cases text with
  | nil => exact absurd rfl label.nonempty
  | cons c tail =>
      have whole : IsTail ([c] ++ tail) := ⟨label.characters, label.last⟩
      exact ⟨c, tail, rfl, label.first c rfl, whole.of_append⟩

/-! ### What the rules take is made of labels -/

theorem letDig_takes : Takes (fun taken => ∃ c, taken = [c] ∧ IsLetterOrDigit c) letDig :=
  takes_one fun c good => ⟨c, rfl, isAlphanum_iff.mp good⟩

theorem hyphens_take : Takes (fun taken => ∀ c ∈ taken, c = '-') (many1 (one (· = '-'))) := by
  have hyphen : Takes (fun taken => ∀ c ∈ taken, c = '-') (one (· = '-')) :=
    takes_one fun c good => List.forall_mem_singleton.mpr (of_decide_eq_true good)
  have join : ∀ left right : List Char, (∀ c ∈ left, c = '-') → (∀ c ∈ right, c = '-') →
      ∀ c ∈ left ++ right, c = '-' :=
    fun _ _ before after => List.forall_mem_append.mpr ⟨before, after⟩
  exact hyphen.andThen (hyphen.many (List.forall_mem_nil _) join) join

theorem labelTail_takes : Takes (fun taken => taken ≠ [] ∧ IsTail taken) labelTail := by
  apply Takes.orElse
  · apply letDig_takes.mono
    rintro _ ⟨c, rfl, letter⟩
    exact ⟨List.cons_ne_nil c [], isTail_singleton letter⟩
  · apply hyphens_take.andThen letDig_takes
    rintro hyphens _ only ⟨c, rfl, letter⟩
    exact ⟨List.append_ne_nil_of_right_ne_nil hyphens (List.cons_ne_nil c []),
      isTail_hyphens only letter⟩

theorem advances_labelTail : Advances labelTail :=
  labelTail_takes.mono fun _ fits => fits.1

theorem label_takes : Takes IsLabel label := by
  have tails : Takes IsTail (many labelTail) :=
    labelTail_takes.many isTail_nil fun _ _ before after => before.2.append after
  apply letDig_takes.andThen tails
  rintro _ tail ⟨c, rfl, letter⟩ follows
  exact IsTail.cons_isLabel letter follows

/-- A name is a row of labels with dots between them. -/
theorem name_takes :
    Takes (fun taken => ∃ first rest, (∀ text ∈ first :: rest, IsLabel text) ∧
      taken = first ++ rest.flatMap ('.' :: ·)) name := by
  have dotted : Takes (fun taken => ∃ text, IsLabel text ∧ taken = '.' :: text)
      (andThen (one (· = '.')) label) := by
    have dot : Takes (· = ['.']) (one (· = '.')) :=
      takes_one fun c good => congrArg (fun d => [d]) (of_decide_eq_true good)
    apply dot.andThen label_takes
    rintro _ text rfl isLabel
    exact ⟨text, isLabel, rfl⟩
  have row : Takes (fun taken => ∃ rest : List (List Char), (∀ text ∈ rest, IsLabel text) ∧
      taken = rest.flatMap ('.' :: ·)) (many (andThen (one (· = '.')) label)) := by
    apply dotted.many ⟨[], List.forall_mem_nil _, rfl⟩
    rintro _ _ ⟨text, isLabel, rfl⟩ ⟨rest, areLabels, rfl⟩
    exact ⟨text :: rest, List.forall_mem_cons.mpr ⟨isLabel, areLabels⟩, rfl⟩
  apply label_takes.andThen row
  rintro first _ isLabel ⟨rest, areLabels, rfl⟩
  exact ⟨first, rest, List.forall_mem_cons.mpr ⟨isLabel, areLabels⟩, rfl⟩

/-! ### Rows of labels are taken whole -/

/-- No more of a label follows. -/
def Closed (rest : List Char) : Prop :=
  ∀ c ∈ rest.head?, c = '.'

theorem Closed.labelTail_eq_none {rest : List Char} (closed : Closed rest) :
    labelTail rest = none := by
  cases rest with
  | nil => rfl
  | cons c tail =>
      rw [closed c rfl]
      rfl

/-- Hyphens and the letter or digit after them are taken in one round. -/
theorem labelTail_hyphens {hyphens : List Char} (only : ∀ d ∈ hyphens, d = '-') {c : Char}
    (letter : IsLetterOrDigit c) (rest : List Char) :
    labelTail (hyphens ++ c :: rest) = some rest := by
  have accepted := isAlphanum_iff.mpr letter
  have taken : letDig (c :: rest) = some rest := if_pos accepted
  cases hyphens with
  | nil =>
      rw [List.nil_append, labelTail, orElse, taken]
  | cons d others =>
      have hyphen : d = '-' := only d (List.mem_cons_self ..)
      subst hyphen
      have stop : ¬ c = '-' := fun same => not_isLetterOrDigit_hyphen (same ▸ letter)
      have run : (others ++ c :: rest).dropWhile (· = '-') = c :: rest := by
        rw [List.dropWhile_append_of_pos, List.dropWhile_cons_of_neg]
        · simpa using stop
        · intro d member
          exact decide_eq_true (only d (List.mem_cons_of_mem _ member))
      have passed : letDig ('-' :: others ++ c :: rest) = none := rfl
      have skipped : many1 (one (· = '-')) ('-' :: others ++ c :: rest) = some (c :: rest) := by
        rw [many1, andThen]
        change many (one (· = '-')) (others ++ c :: rest) = _
        rw [many_one, run]
      rw [labelTail, orElse, passed]
      simp only [andThen, skipped, taken]

theorem many_labelTail {tail rest : List Char} (whole : IsTail tail) (closed : Closed rest) :
    many labelTail (tail ++ rest) = some rest := by
  induction length : tail.length using Nat.strongRecOn generalizing tail with
  | ind size ih =>
      by_cases something : tail = []
      · rw [something]
        exact many_of_no_match closed.labelTail_eq_none
      · obtain ⟨hyphens, c, left, rfl, only, letter, follows⟩ := whole.exists_letter something
        have round := labelTail_hyphens only letter (left ++ rest)
        have shorter : left.length < size := by
          rw [← length, List.length_append, List.length_cons]
          omega
        rw [List.append_assoc, List.cons_append, advances_labelTail.many_of_match round]
        exact ih left.length shorter follows rfl

theorem label_of_isLabel {text rest : List Char} (isLabel : IsLabel text) (closed : Closed rest) :
    label (text ++ rest) = some rest := by
  obtain ⟨c, tail, rfl, letter, follows⟩ := isLabel.exists_cons
  have start : letDig (c :: tail ++ rest) = some (tail ++ rest) :=
    if_pos (isAlphanum_iff.mpr letter)
  rw [label, andThen, start]
  exact many_labelTail follows closed

theorem closed_dotted (rest : List (List Char)) : Closed (rest.flatMap ('.' :: ·)) := by
  cases rest with
  | nil => intro c first; cases first
  | cons text others => intro c first; exact (Option.some.inj first).symm

theorem advances_dotted : Advances (andThen (one (· = '.')) label) :=
  (advances_one _).andThen label_takes

theorem many_dotted {rest : List (List Char)} (areLabels : ∀ text ∈ rest, IsLabel text) :
    many (andThen (one (· = '.')) label) (rest.flatMap ('.' :: ·)) = some [] := by
  induction rest with
  | nil => rfl
  | cons text others ih =>
      obtain ⟨isLabel, othersAre⟩ := List.forall_mem_cons.mp areLabels
      have round : andThen (one (· = '.')) label ((text :: others).flatMap ('.' :: ·)) =
          some (others.flatMap ('.' :: ·)) :=
        label_of_isLabel isLabel (closed_dotted others)
      rw [advances_dotted.many_of_match round]
      exact ih othersAre

theorem name_of_labels {first : List Char} {rest : List (List Char)}
    (areLabels : ∀ text ∈ first :: rest, IsLabel text) :
    name (first ++ rest.flatMap ('.' :: ·)) = some [] := by
  obtain ⟨isLabel, othersAre⟩ := List.forall_mem_cons.mp areLabels
  rw [name, andThen, label_of_isLabel isLabel (closed_dotted rest)]
  exact many_dotted othersAre

/-! ### Names by their labels -/

theorem intercalate_cons {α : Type} (between : α) (first : List α) (rest : List (List α)) :
    [between].intercalate (first :: rest) = first ++ rest.flatMap (between :: ·) := by
  induction rest generalizing first with
  | nil => simp
  | cons next others ih =>
      rw [List.intercalate_cons_cons, ih, List.flatMap_cons, List.append_assoc]
      rfl

/--
A text is a domain name just if the pieces between its dots, of which there is
at least one, are labels.
-/
theorem isValid_iff_labels (text : String) :
    isValid text = true ↔ labels text ≠ [] ∧ ∀ piece ∈ labels text, IsLabel piece := by
  rw [isValid_eq_true_iff]
  constructor
  · intro matched
    obtain ⟨_, textEq, first, rest, areLabels, rfl⟩ := name_takes text.toList [] matched
    rw [List.append_nil, ← intercalate_cons] at textEq
    have cut : labels text = first :: rest := by
      rw [labels, textEq]
      exact List.splitOn_intercalate '.' (fun piece member => (areLabels piece member).not_mem_dot)
        (List.cons_ne_nil first rest)
    rw [cut]
    exact ⟨List.cons_ne_nil first rest, areLabels⟩
  · rintro ⟨something, areLabels⟩
    obtain ⟨first, rest, cut⟩ := List.exists_cons_of_ne_nil something
    rw [cut] at areLabels
    have whole : text.toList = first ++ rest.flatMap ('.' :: ·) := by
      rw [← intercalate_cons, ← cut, labels, List.intercalate_splitOn]
    rw [whole]
    exact name_of_labels areLabels

end DomainName

end MailHost
