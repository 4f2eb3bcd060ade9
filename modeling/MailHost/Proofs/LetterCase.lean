import MailHost.Proofs.DomainName
import MailHost.Text

/-!
# Letter case

What small letters keep of a text, and that being a domain name is kept but for
one character: the Kelvin sign, which has a letter of ASCII as its small form.
-/

namespace MailHost

/-!
## Characters with a small form in ASCII

The Kelvin sign is the only character outside ASCII whose small form is a
character of ASCII.  With the letter k in its place, a text is in ASCII just if
its small form is, and each character then has its small form by itself.
-/

namespace Text

/-- The sign for the unit of temperature, which looks like a capital K. -/
def kelvinSign : Char := '\u212a'

/-- A character, or the letter k in the place of a Kelvin sign. -/
def spelled (c : Char) : Char :=
  if c = kelvinSign then 'k' else c

theorem spelled_of_ne {c : Char} (different : c ≠ kelvinSign) : spelled c = c := if_neg different

/-- A character that is not in ASCII. -/
def Foreign (c : Char) : Prop := 128 ≤ c.toNat

instance (c : Char) : Decidable (Foreign c) := inferInstanceAs (Decidable (128 ≤ c.toNat))

theorem spelled_of_not_foreign {c : Char} (plain : ¬ Foreign c) : spelled c = c := by
  apply spelled_of_ne
  rintro rfl
  exact plain (by decide)

theorem foreign_ofNat {code : Nat} (valid : code.isValidChar) (beyond : 128 ≤ code) :
    Foreign (Char.ofNat code) := by
  rw [Foreign, Char.ofNat, dif_pos valid]
  exact beyond

/-- Capitals outside ASCII have their small letters there, but for the Kelvin sign. -/
theorem small_of_mem_capitalRuns {run : CapitalRun} (member : run ∈ capitalRuns) {code : Nat}
    (contained : run.contains code = true) :
    code = kelvinSign.toNat ∨ (run.small code).isValidChar ∧ 128 ≤ run.small code := by
  have all : capitalRuns.all (fun run =>
      (run.first = kelvinSign.toNat && run.last = kelvinSign.toNat) ||
        128 ≤ run.target && (run.target + (run.last - run.first) < 0xd800 ||
          0xdfff < run.target && run.target + (run.last - run.first) < 0x110000)) = true := by
    decide +kernel
  have fits := List.all_eq_true.mp all run member
  simp only [CapitalRun.contains, Bool.and_eq_true, Bool.or_eq_true, decide_eq_true_eq]
    at fits contained
  rw [CapitalRun.small, Nat.isValidChar]
  omega

theorem small_of_not_foreign {c : Char} (plain : ¬ Foreign (spelled c)) :
    small c = [(spelled c).toLower] := by
  by_cases sign : c = kelvinSign
  · rw [sign]
    decide +kernel
  · rw [spelled_of_ne sign] at plain ⊢
    exact if_pos (Nat.not_le.mp plain)

theorem exists_foreign_small {c : Char} (foreign : Foreign (spelled c)) :
    ∃ s ∈ small c, Foreign s := by
  have sign : c ≠ kelvinSign := by
    rintro rfl
    exact absurd foreign (by decide)
  rw [spelled_of_ne sign] at foreign
  rw [small, if_neg (Nat.not_lt.mpr foreign)]
  split
  · exact ⟨'\u0307', by simp, by decide⟩
  · split
    · rename_i run found
      have contained := List.find?_some found
      rcases small_of_mem_capitalRuns (List.mem_of_find?_eq_some found) contained with same | far
      · exact absurd (Char.toNat_inj.mp same) sign
      · exact ⟨_, List.mem_singleton_self _, foreign_ofNat far.1 far.2⟩
    · exact ⟨c, List.mem_singleton_self c, foreign⟩

theorem foreign_smallSigma (before after : List Char) : Foreign (smallSigma before after) := by
  rw [smallSigma]
  split <;> decide

/-- A text without characters outside ASCII has its small form character by character. -/
theorem lowerAfter_of_not_foreign {before text : List Char}
    (plain : ∀ c ∈ text, ¬ Foreign (spelled c)) :
    lowerAfter before text = (text.map spelled).map Char.toLower := by
  induction text generalizing before with
  | nil => rfl
  | cons c rest ih =>
      obtain ⟨here, later⟩ := List.forall_mem_cons.mp plain
      have notSigma : c ≠ '\u03a3' := by
        rintro rfl
        exact here (by decide)
      rw [lowerAfter, if_neg notSigma, small_of_not_foreign here, ih later]
      rfl

/-- A character outside ASCII leaves one in the small form. -/
theorem exists_foreign_lowerAfter (before : List Char) {text : List Char}
    (foreign : ∃ c ∈ text, Foreign (spelled c)) : ∃ s ∈ lowerAfter before text, Foreign s := by
  induction text generalizing before with
  | nil =>
      obtain ⟨c, member, _⟩ := foreign
      cases member
  | cons first rest ih =>
      obtain ⟨c, member, beyond⟩ := foreign
      rw [lowerAfter]
      rcases List.mem_cons.mp member with rfl | later
      · split
        · exact ⟨_, List.mem_append_left _ (List.mem_singleton_self _),
            foreign_smallSigma before rest⟩
        · obtain ⟨s, made, far⟩ := exists_foreign_small beyond
          exact ⟨s, List.mem_append_left _ made, far⟩
      · obtain ⟨s, made, far⟩ := ih (first :: before) ⟨c, later, beyond⟩
        exact ⟨s, List.mem_append_right _ made, far⟩

/-!
## Small letters stay as they are

The lower-case form of a text has no capital of ASCII.  A text of ASCII without
capitals is its own lower-case form, so a domain name in lower case is.
-/

theorem isUpper_eq_false_iff {c : Char} : c.isUpper = false ↔ c.toNat < 65 ∨ 90 < c.toNat := by
  rw [← Bool.not_eq_true, isUpper_eq_true_iff]
  omega

theorem isUpper_ofNat {code : Nat} (past : 90 < code) : (Char.ofNat code).isUpper = false := by
  by_cases valid : code.isValidChar
  · have same : (Char.ofNat code).toNat = code := by
      rw [Char.ofNat, dif_pos valid]
      rfl
    exact isUpper_eq_false_iff.mpr (Or.inr (by rw [same]; exact past))
  · rw [Char.ofNat, dif_neg valid]
    rfl

theorem toLower_of_isUpper_eq_false {c : Char} (noCapital : c.isUpper = false) :
    c.toLower = c :=
  dif_neg (of_decide_eq_false noCapital)

theorem toNat_toLower_of_isUpper {c : Char} (capital : c.isUpper = true) :
    c.toLower.toNat = c.toNat + 32 := by
  have moved : c.toLower.val = c.val + ('a'.val - 'A'.val) :=
    congrArg Char.val (dif_pos (of_decide_eq_true capital))
  have within := isUpper_eq_true_iff.mp capital
  change c.toLower.val.toNat = c.toNat + 32
  rw [moved, UInt32.toNat_add]
  change (c.toNat + 32) % 4294967296 = c.toNat + 32
  omega

theorem isUpper_toLower (c : Char) : c.toLower.isUpper = false := by
  cases capital : c.isUpper with
  | false => rw [toLower_of_isUpper_eq_false capital, capital]
  | true =>
      have within := isUpper_eq_true_iff.mp capital
      rw [isUpper_eq_false_iff, toNat_toLower_of_isUpper capital]
      omega

/-- No capital has its small letter among the capitals of ASCII. -/
theorem past_of_mem_capitalRuns {run : CapitalRun} (member : run ∈ capitalRuns) :
    90 < run.target := by
  have all : capitalRuns.all (fun run => 90 < run.target) = true := by decide +kernel
  simpa using List.all_eq_true.mp all run member

theorem isUpper_of_mem_small {c s : Char} (member : s ∈ small c) : s.isUpper = false := by
  rw [small] at member
  split at member
  · rw [List.mem_singleton.mp member]
    exact isUpper_toLower c
  · split at member
    · rcases List.mem_cons.mp member with rfl | rest
      · decide
      · rw [List.mem_singleton.mp rest]
        decide
    · split at member
      · rename_i run found
        have past := past_of_mem_capitalRuns (List.mem_of_find?_eq_some found)
        rw [List.mem_singleton.mp member]
        exact isUpper_ofNat (by rw [CapitalRun.small]; omega)
      · rename_i ascii dotted none
        rw [List.mem_singleton.mp member]
        exact isUpper_eq_false_iff.mpr (by omega)

theorem isUpper_smallSigma (before after : List Char) :
    (smallSigma before after).isUpper = false := by
  rw [smallSigma]
  split <;> decide

theorem isUpper_of_mem_lowerAfter {before text : List Char} {c : Char}
    (member : c ∈ lowerAfter before text) : c.isUpper = false := by
  induction text generalizing before with
  | nil => cases member
  | cons first rest ih =>
      rw [lowerAfter] at member
      rcases List.mem_append.mp member with here | later
      · split at here
        · rw [List.mem_singleton.mp here]
          exact isUpper_smallSigma before rest
        · exact isUpper_of_mem_small here
      · exact ih later

theorem lowerAfter_eq_self {before text : List Char}
    (plain : ∀ c ∈ text, c.toNat < 128 ∧ c.isUpper = false) : lowerAfter before text = text := by
  have inAscii : ∀ c ∈ text, spelled c = c ∧ ¬ Foreign (spelled c) := by
    intro c member
    have ascii : ¬ Foreign c := Nat.not_le.mpr (plain c member).1
    rw [spelled_of_not_foreign ascii]
    exact ⟨rfl, ascii⟩
  have kept : ∀ c ∈ text, (spelled c).toLower = id c := by
    intro c member
    rw [(inAscii c member).1, toLower_of_isUpper_eq_false (plain c member).2, id]
  calc
    lowerAfter before text = (text.map spelled).map Char.toLower :=
      lowerAfter_of_not_foreign fun c member => (inAscii c member).2
    _ = text.map id := List.map_map.trans (List.map_congr_left kept)
    _ = text := List.map_id text

/-- A domain name that is the lower-case form of something is its own lower-case form. -/
theorem lower_lower_of_isValid {text : String} (valid : DomainName.isValid (lower text) = true) :
    lower (lower text) = lower text := by
  have plain : ∀ c ∈ (lower text).toList, c.toNat < 128 ∧ c.isUpper = false := by
    intro c member
    have named := DomainName.isNameCharacter_of_isValid valid c member
    rw [lower, String.toList_ofList] at member
    have bounds := DomainName.bounds_of_isNameCharacter named
    exact ⟨by omega, isUpper_of_mem_lowerAfter member⟩
  calc
    lower (lower text) = String.ofList (lowerAfter [] (lower text).toList) := rfl
    _ = String.ofList (lower text).toList := by rw [lowerAfter_eq_self plain]
    _ = lower text := String.ofList_toList

end Text

/-!
## Domain names and letter case

No rule of the grammar tells a capital from its small letter.  So whether a text
is a domain name can be read off its small form, once the Kelvin sign, which has
a letter of ASCII as its small form, is set apart.
-/

namespace DomainName

open MailHost.Grammar

theorem isAlphanum_toLower (c : Char) : c.toLower.isAlphanum = c.isAlphanum := by
  cases capital : c.isUpper with
  | false => rw [Text.toLower_of_isUpper_eq_false capital]
  | true =>
      have within := Text.isUpper_eq_true_iff.mp capital
      have moved := Text.toNat_toLower_of_isUpper capital
      have small : c.toLower.isLower = true := Text.isLower_eq_true_iff.mpr (by omega)
      rw [Text.isAlphanum_eq_true_iff.mpr (Or.inl (Or.inl capital)),
        Text.isAlphanum_eq_true_iff.mpr (Or.inl (Or.inr small))]

/-- Only itself becomes a character that is below the letters. -/
theorem toLower_eq_iff {c mark : Char} (below : mark.toNat < 65) : c.toLower = mark ↔ c = mark := by
  cases capital : c.isUpper with
  | false => rw [Text.toLower_of_isUpper_eq_false capital]
  | true =>
      have within := Text.isUpper_eq_true_iff.mp capital
      have moved := Text.toNat_toLower_of_isUpper capital
      constructor
      · intro same
        rw [same] at moved
        omega
      · intro same
        rw [same] at within
        omega

theorem name_ignores_toLower : Ignores Char.toLower name := by
  have letter : Ignores Char.toLower letDig := Ignores.one isAlphanum_toLower
  have hyphen : Ignores Char.toLower (one (· = '-')) :=
    Ignores.one fun c => decide_eq_decide.mpr (toLower_eq_iff (by decide))
  have dot : Ignores Char.toLower (one (· = '.')) :=
    Ignores.one fun c => decide_eq_decide.mpr (toLower_eq_iff (by decide))
  have labelIgnores : Ignores Char.toLower label :=
    letter.andThen (letter.orElse ((hyphen.andThen hyphen.many).andThen letter)).many
  exact labelIgnores.andThen (dot.andThen labelIgnores).many

theorem isValid_of_foreign {text : String} (foreign : ∃ c ∈ text.toList, Text.Foreign c) :
    isValid text = false := by
  obtain ⟨c, member, beyond⟩ := foreign
  rw [← Bool.not_eq_true]
  intro valid
  have bounds := bounds_of_isNameCharacter (isNameCharacter_of_isValid valid c member)
  rw [Text.Foreign] at beyond
  omega

def spelledOut (text : String) : String :=
  String.ofList (text.toList.map Text.spelled)

/-- The small form of a text is as valid as the text with its Kelvin signs spelled out. -/
theorem isValid_lower (text : String) : isValid (Text.lower text) = isValid (spelledOut text) := by
  by_cases foreign : ∃ c ∈ text.toList, Text.Foreign (Text.spelled c)
  · obtain ⟨c, member, beyond⟩ := foreign
    rw [isValid_of_foreign, isValid_of_foreign]
    · rw [spelledOut, String.toList_ofList]
      exact ⟨_, List.mem_map_of_mem member, beyond⟩
    · rw [Text.lower, String.toList_ofList]
      exact Text.exists_foreign_lowerAfter [] ⟨c, member, beyond⟩
  · have plain : ∀ c ∈ text.toList, ¬ Text.Foreign (Text.spelled c) :=
      fun c member beyond => foreign ⟨c, member, beyond⟩
    rw [Text.lower, Text.lowerAfter_of_not_foreign plain, spelledOut, isValid, isValid,
      String.toList_ofList, String.toList_ofList, name_ignores_toLower.matchesAll]

theorem not_mem_kelvinSign_of_isValid {text : String} (valid : isValid text = true) :
    Text.kelvinSign ∉ text.toList := by
  intro member
  have foreign : Text.Foreign Text.kelvinSign := by decide
  rw [isValid_of_foreign ⟨_, member, foreign⟩] at valid
  cases valid

theorem spelledOut_eq_self {text : String} (without : Text.kelvinSign ∉ text.toList) :
    spelledOut text = text := by
  have same : ∀ c ∈ text.toList, Text.spelled c = id c := by
    intro c member
    apply Text.spelled_of_ne
    rintro rfl
    exact without member
  rw [spelledOut, List.map_congr_left same, List.map_id, String.ofList_toList]

theorem isValid_iff_lower (text : String) :
    isValid text = true ↔ isValid (Text.lower text) = true ∧ Text.kelvinSign ∉ text.toList := by
  constructor
  · intro valid
    have without := not_mem_kelvinSign_of_isValid valid
    rw [isValid_lower, spelledOut_eq_self without]
    exact ⟨valid, without⟩
  · rintro ⟨valid, without⟩
    rwa [isValid_lower, spelledOut_eq_self without] at valid

end DomainName

end MailHost
