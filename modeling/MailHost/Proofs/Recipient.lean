import MailHost.Mail

/-!
# Recipients and their texts

A text is divided at its last at sign, and a recipient is written with an at
sign between its two parts.
-/

namespace MailHost.Recipient

/-!
## Recipients read back

The last at sign of a written recipient is the one that was put between its two
parts, since the domain has none.  So the written form is read as the recipient
again, unless the parts themselves look like an opening and a closing bracket.
-/

/-! ### The last at sign -/

theorem cutAtLastSign?_eq_none_iff {text : List Char} :
    cutAtLastSign? text = none ↔ '@' ∉ text := by
  induction text with
  | nil => simp [cutAtLastSign?]
  | cons c rest ih =>
      rw [cutAtLastSign?, List.mem_cons, not_or, ← ih]
      cases cutAtLastSign? rest with
      | some cut => simp
      | none => simp [eq_comm]

theorem cutAtLastSign?_append (before : List Char) {after : List Char} (last : '@' ∉ after) :
    cutAtLastSign? (before ++ '@' :: after) = some (before, after) := by
  induction before with
  | nil => rw [List.nil_append, cutAtLastSign?, cutAtLastSign?_eq_none_iff.mpr last, if_pos rfl]
  | cons c rest ih => rw [List.cons_append, cutAtLastSign?, ih]

theorem cutAtLastSign?_eq_some_iff {text before after : List Char} :
    cutAtLastSign? text = some (before, after) ↔ text = before ++ '@' :: after ∧ '@' ∉ after := by
  constructor
  · intro cut
    induction text generalizing before with
    | nil => cases cut
    | cons c rest ih =>
        rw [cutAtLastSign?] at cut
        cases later : cutAtLastSign? rest with
        | some parts =>
            obtain ⟨inner, last⟩ := parts
            rw [later] at cut
            cases cut
            obtain ⟨restEq, lastSign⟩ := ih later
            exact ⟨by rw [restEq]; rfl, lastSign⟩
        | none =>
            simp only [later] at cut
            split at cut
            · rename_i sign
              cases cut
              exact ⟨by rw [sign]; rfl, cutAtLastSign?_eq_none_iff.mp later⟩
            · cases cut
  · rintro ⟨rfl, last⟩
    exact cutAtLastSign?_append before last

/-! ### Brackets -/

/-- A text with an angle bracket at its start and one at its end. -/
def Bracketed (text : List Char) : Prop :=
  text.head? = some '<' ∧ text.getLast? = some '>'

theorem bracketed_iff_exists {text : List Char} :
    Bracketed text ↔ ∃ inner, text = '<' :: (inner ++ ['>']) := by
  constructor
  · rintro ⟨opening, closing⟩
    obtain ⟨before, rfl⟩ := List.getLast?_eq_some_iff.mp closing
    cases before with
    | nil => cases opening
    | cons c inner =>
        cases opening
        exact ⟨inner, rfl⟩
  · rintro ⟨inner, rfl⟩
    exact ⟨rfl, List.getLast?_concat (l := '<' :: inner)⟩

theorem withoutBrackets_bracketed (inner : List Char) :
    withoutBrackets ('<' :: (inner ++ ['>'])) = inner := by
  rw [withoutBrackets, if_pos List.getLast?_concat, List.dropLast_concat]

theorem withoutBrackets_of_not_bracketed {text : List Char} (plain : ¬ Bracketed text) :
    withoutBrackets text = text := by
  unfold withoutBrackets
  split
  · rename_i inner
    by_cases closing : inner.getLast? = some '>'
    · obtain ⟨middle, rfl⟩ := List.getLast?_eq_some_iff.mp closing
      exact absurd (bracketed_iff_exists.mpr ⟨middle, rfl⟩) plain
    · rw [if_neg closing]
  · rfl

/-! ### Parts -/

def ofParts : List Char → List Char → Except RecipientError Recipient
  | [], _ => .error .emptyLocalPart
  | _ :: _, [] => .error .emptyDomain
  | c :: before, d :: after => .ok ⟨String.ofList (c :: before), String.ofList (d :: after)⟩

theorem parseChars_of_cut {text before after : List Char}
    (naked : withoutBrackets text = before ++ '@' :: after) (last : '@' ∉ after) :
    parseChars text = ofParts before after := by
  rw [parseChars, naked, cutAtLastSign?_append before last]
  cases before with
  | nil => rfl
  | cons c rest => cases after <;> rfl

theorem ofParts_eq_ok_iff {before after : List Char} {recipient : Recipient} :
    ofParts before after = .ok recipient ↔
      before ≠ [] ∧ after ≠ [] ∧ recipient = ⟨String.ofList before, String.ofList after⟩ := by
  cases before with
  | nil => simp [ofParts]
  | cons c rest =>
      cases after with
      | nil => simp [ofParts]
      | cons d others => simp [ofParts, eq_comm]

/-- A text that names a recipient is the written form of it, but for brackets. -/
theorem parseChars_eq_ok_iff {text : List Char} {recipient : Recipient} :
    parseChars text = .ok recipient ↔
      withoutBrackets text = recipient.localPart.toList ++ '@' :: recipient.domain.toList ∧
        '@' ∉ recipient.domain.toList ∧
        recipient.localPart.toList ≠ [] ∧ recipient.domain.toList ≠ [] := by
  constructor
  · intro parsed
    cases cut : cutAtLastSign? (withoutBrackets text) with
    | none =>
        rw [parseChars, cut] at parsed
        cases parsed
    | some parts =>
        obtain ⟨before, after⟩ := parts
        obtain ⟨naked, last⟩ := cutAtLastSign?_eq_some_iff.mp cut
        rw [parseChars_of_cut naked last, ofParts_eq_ok_iff] at parsed
        obtain ⟨someLocal, someDomain, rfl⟩ := parsed
        simp only [String.toList_ofList]
        exact ⟨naked, last, someLocal, someDomain⟩
  · rintro ⟨naked, last, someLocal, someDomain⟩
    rw [parseChars_of_cut naked last, ofParts_eq_ok_iff]
    refine ⟨someLocal, someDomain, ?_⟩
    rw [String.ofList_toList, String.ofList_toList]

/-! ### The written form -/

theorem toList_render (recipient : Recipient) :
    recipient.render.toList = recipient.localPart.toList ++ '@' :: recipient.domain.toList := by
  rw [render, String.toList_append, String.toList_append, List.append_assoc]
  rfl

/-- The local part starts with an opening bracket, and the domain ends with a closing one. -/
def LooksBracketed (recipient : Recipient) : Prop :=
  recipient.localPart.toList.head? = some '<' ∧ recipient.domain.toList.getLast? = some '>'

instance (recipient : Recipient) : Decidable recipient.LooksBracketed :=
  inferInstanceAs (Decidable (_ ∧ _))

variable {recipient : Recipient} {text : String}

theorem bracketed_render_iff (someLocal : recipient.localPart.toList ≠ [])
    (someDomain : recipient.domain.toList ≠ []) :
    Bracketed recipient.render.toList ↔ recipient.LooksBracketed := by
  rw [Bracketed, LooksBracketed, toList_render]
  obtain ⟨c, before, localEq⟩ := List.exists_cons_of_ne_nil someLocal
  obtain ⟨d, after, domainEq⟩ := List.exists_cons_of_ne_nil someDomain
  rw [localEq, domainEq, List.getLast?_append, List.getLast?_cons_cons]
  simp [List.getLast?_cons]

theorem parse_eq_ok_iff :
    parse text = .ok recipient ↔
      withoutBrackets text.toList = recipient.render.toList ∧
        '@' ∉ recipient.domain.toList ∧
        recipient.localPart.toList ≠ [] ∧ recipient.domain.toList ≠ [] := by
  rw [parse, parseChars_eq_ok_iff, toList_render]

/-- A text that names a recipient is its written form, or that between brackets. -/
theorem text_of_parse (parsed : parse text = .ok recipient) :
    text = recipient.render ∨ text = "<" ++ recipient.render ++ ">" := by
  obtain ⟨naked, _⟩ := parse_eq_ok_iff.mp parsed
  by_cases bracketed : Bracketed text.toList
  · obtain ⟨inner, textEq⟩ := bracketed_iff_exists.mp bracketed
    rw [textEq, withoutBrackets_bracketed] at naked
    refine Or.inr (String.toList_inj.mp ?_)
    rw [textEq, naked, String.toList_append, String.toList_append]
    rfl
  · rw [withoutBrackets_of_not_bracketed bracketed] at naked
    exact Or.inl (String.toList_inj.mp naked)

/-- What a recipient whose parts look like brackets is read as. -/
theorem parse_render_of_looksBracketed (last : '@' ∉ recipient.domain.toList)
    (looks : recipient.LooksBracketed) :
    parse recipient.render =
      ofParts recipient.localPart.toList.tail recipient.domain.toList.dropLast := by
  obtain ⟨opening, closing⟩ := looks
  obtain ⟨before, localEq⟩ := List.head?_eq_some_iff.mp opening
  obtain ⟨after, domainEq⟩ := List.getLast?_eq_some_iff.mp closing
  rw [localEq, domainEq, List.tail_cons, List.dropLast_concat]
  rw [domainEq, List.mem_append, not_or] at last
  refine parseChars_of_cut ?_ last.1
  have written : recipient.render.toList = '<' :: ((before ++ '@' :: after) ++ ['>']) := by
    rw [toList_render, localEq, domainEq, List.append_assoc]
    rfl
  rw [written, withoutBrackets_bracketed]

theorem parse_render_ne_of_looksBracketed (last : '@' ∉ recipient.domain.toList)
    (looks : recipient.LooksBracketed) : parse recipient.render ≠ .ok recipient := by
  intro again
  rw [parse_render_of_looksBracketed last looks, ofParts_eq_ok_iff] at again
  -- The local part has lost its first character.
  have shorter : recipient.localPart.toList = recipient.localPart.toList.tail :=
    (congrArg (fun other : Recipient => other.localPart.toList) again.2.2).trans
      String.toList_ofList
  obtain ⟨before, localEq⟩ := List.head?_eq_some_iff.mp looks.1
  rw [localEq] at shorter
  exact List.cons_ne_self '<' before shorter

theorem parse_render_of_plain (last : '@' ∉ recipient.domain.toList)
    (someLocal : recipient.localPart.toList ≠ []) (someDomain : recipient.domain.toList ≠ [])
    (plain : ¬ recipient.LooksBracketed) : parse recipient.render = .ok recipient := by
  rw [← bracketed_render_iff someLocal someDomain] at plain
  exact parse_eq_ok_iff.mpr
    ⟨withoutBrackets_of_not_bracketed plain, last, someLocal, someDomain⟩

/-- Brackets are left in a recipient only when there was a pair around them. -/
theorem text_of_looksBracketed (parsed : parse text = .ok recipient)
    (looks : recipient.LooksBracketed) : text = "<" ++ recipient.render ++ ">" := by
  obtain ⟨naked, _, someLocal, someDomain⟩ := parse_eq_ok_iff.mp parsed
  rcases text_of_parse parsed with rfl | wrapped
  · have bracketed := (bracketed_render_iff someLocal someDomain).mpr looks
    obtain ⟨inner, written⟩ := bracketed_iff_exists.mp bracketed
    -- The brackets of the written form would have been dropped.
    rw [written, withoutBrackets_bracketed] at naked
    have length := congrArg List.length naked
    simp only [List.length_cons, List.length_append, List.length_nil] at length
    omega
  · exact wrapped

/--
The written form of a recipient that was read is read as the recipient again,
unless its parts look like brackets.  Such a recipient comes only from its
written form between a further pair of brackets, and its own two are dropped
when the written form is read.
-/
theorem parse_render_iff (parsed : parse text = .ok recipient) :
    (parse recipient.render = .ok recipient ↔ ¬ recipient.LooksBracketed) ∧
    (recipient.LooksBracketed →
      text = "<" ++ recipient.render ++ ">" ∧
      parse recipient.render =
        ofParts recipient.localPart.toList.tail recipient.domain.toList.dropLast) := by
  obtain ⟨_, last, someLocal, someDomain⟩ := parse_eq_ok_iff.mp parsed
  refine ⟨⟨?_, ?_⟩, ?_⟩
  · intro again looks
    exact parse_render_ne_of_looksBracketed last looks again
  · exact parse_render_of_plain last someLocal someDomain
  · intro looks
    exact ⟨text_of_looksBracketed parsed looks, parse_render_of_looksBracketed last looks⟩

theorem parse_render_iff_nested :
    let one : Recipient := ⟨"<gen", "nyble.dev"⟩
    let both : Recipient := ⟨"<gen", "nyble.dev>"⟩
    (parse "<<gen@nyble.dev>" = .ok one ∧ ¬ one.LooksBracketed ∧
        parse one.render = .ok one) ∧
      parse "<<gen@nyble.dev>>" = .ok both ∧ both.LooksBracketed ∧
        "<<gen@nyble.dev>>" = "<" ++ both.render ++ ">" ∧
        parse both.render = .ok ⟨"gen", "nyble.dev"⟩ := by
  intro one both
  have oneParsed : parse "<<gen@nyble.dev>" = .ok one := rfl
  have bothParsed : parse "<<gen@nyble.dev>>" = .ok both := rfl
  have plain : ¬ one.LooksBracketed := by decide
  have looks : both.LooksBracketed := by decide
  obtain ⟨nested, read⟩ := (parse_render_iff bothParsed).2 looks
  have again := (parse_render_iff oneParsed).1.mpr plain
  have parts : ofParts both.localPart.toList.tail both.domain.toList.dropLast =
      .ok ⟨"gen", "nyble.dev"⟩ := ofParts_eq_ok_iff.mpr ⟨by decide, by decide, by decide⟩
  exact ⟨⟨oneParsed, plain, again⟩, bothParsed, looks, nested, read.trans parts⟩

/--
Three recipients whose written form is not read as the recipient: it names
another one, has no local part or has no domain.
-/
theorem render_read_differently :
    (parse "<<gen@nyble.dev>>" = .ok ⟨"<gen", "nyble.dev>"⟩ ∧
        parse (render ⟨"<gen", "nyble.dev>"⟩) = .ok ⟨"gen", "nyble.dev"⟩) ∧
      (parse "<<@nyble.dev>>" = .ok ⟨"<", "nyble.dev>"⟩ ∧
        parse (render ⟨"<", "nyble.dev>"⟩) = .error .emptyLocalPart) ∧
      parse "<<gen@>>" = .ok ⟨"<gen", ">"⟩ ∧
        parse (render ⟨"<gen", ">"⟩) = .error .emptyDomain :=
  ⟨⟨rfl, rfl⟩, ⟨rfl, rfl⟩, rfl, rfl⟩

/-!
## Which texts name a recipient

A text is divided at its last at sign, and there is only one way to do so.  So
what a text names, and why it names nothing, can be read off the text that is
left between the brackets, however many brackets and at signs it has itself.
-/

/-! ### The naked text -/

/-- What is left of a text when the pair of brackets around it is dropped, if there is one. -/
def Bares (text naked : List Char) : Prop :=
  text = '<' :: (naked ++ ['>']) ∨ ¬ Bracketed text ∧ text = naked

theorem bares_iff {text naked : List Char} : Bares text naked ↔ withoutBrackets text = naked := by
  constructor
  · rintro (rfl | ⟨plain, rfl⟩)
    · exact withoutBrackets_bracketed naked
    · exact withoutBrackets_of_not_bracketed plain
  · intro left
    by_cases bracketed : Bracketed text
    · obtain ⟨inner, rfl⟩ := bracketed_iff_exists.mp bracketed
      rw [withoutBrackets_bracketed] at left
      exact Or.inl (by rw [left])
    · rw [withoutBrackets_of_not_bracketed bracketed] at left
      exact Or.inr ⟨bracketed, left⟩

/-! ### Dividing -/

/-- The last at sign divides a text in one way only. -/
theorem parts_unique {before after front back : List Char}
    (same : before ++ '@' :: after = front ++ '@' :: back) (last : '@' ∉ after)
    (lastBack : '@' ∉ back) : before = front ∧ after = back := by
  have cut := cutAtLastSign?_append before last
  rw [same, cutAtLastSign?_append front lastBack] at cut
  cases cut
  exact ⟨rfl, rfl⟩

theorem ofParts_eq_emptyLocalPart_iff {before after : List Char} :
    ofParts before after = .error .emptyLocalPart ↔ before = [] := by
  cases before with
  | nil => simp [ofParts]
  | cons c rest => cases after <;> simp [ofParts]

theorem ofParts_eq_emptyDomain_iff {before after : List Char} :
    ofParts before after = .error .emptyDomain ↔ before ≠ [] ∧ after = [] := by
  cases before with
  | nil => simp [ofParts]
  | cons c rest => cases after <;> simp [ofParts]

theorem ofParts_ne_noAtSign (before after : List Char) :
    ofParts before after ≠ .error .noAtSign := by
  cases before with
  | nil => simp [ofParts]
  | cons c rest => cases after <;> simp [ofParts]

variable {text : String} {naked : List Char}

theorem parse_of_no_sign (bares : Bares text.toList naked) (unsigned : '@' ∉ naked) :
    parse text = .error .noAtSign := by
  rw [parse, parseChars, bares_iff.mp bares, cutAtLastSign?_eq_none_iff.mpr unsigned]

theorem parse_of_parts {before after : List Char}
    (bares : Bares text.toList (before ++ '@' :: after)) (last : '@' ∉ after) :
    parse text = ofParts before after :=
  parseChars_of_cut (bares_iff.mp bares) last

/-- A text with an at sign is divided by it. -/
theorem exists_parts (signed : '@' ∈ naked) :
    ∃ before after, naked = before ++ '@' :: after ∧ '@' ∉ after := by
  cases cut : cutAtLastSign? naked with
  | none => exact absurd signed (cutAtLastSign?_eq_none_iff.mp cut)
  | some parts => exact ⟨parts.1, parts.2, cutAtLastSign?_eq_some_iff.mp cut⟩

/-! ### What is said of a text -/

theorem parse_eq_noAtSign_iff (bares : Bares text.toList naked) :
    parse text = .error .noAtSign ↔ '@' ∉ naked := by
  refine ⟨?_, parse_of_no_sign bares⟩
  intro refused signed
  obtain ⟨before, after, rfl, last⟩ := exists_parts signed
  rw [parse_of_parts bares last] at refused
  exact ofParts_ne_noAtSign before after refused

/-- Without a local part, the only at sign is the first character. -/
theorem parse_eq_emptyLocalPart_iff (bares : Bares text.toList naked) :
    parse text = .error .emptyLocalPart ↔ ∃ after, naked = '@' :: after ∧ '@' ∉ after := by
  constructor
  · intro refused
    by_cases signed : '@' ∈ naked
    · obtain ⟨before, after, rfl, last⟩ := exists_parts signed
      rw [parse_of_parts bares last, ofParts_eq_emptyLocalPart_iff] at refused
      exact ⟨after, by rw [refused]; rfl, last⟩
    · rw [parse_of_no_sign bares signed] at refused
      cases refused
  · rintro ⟨after, rfl, last⟩
    have divided : Bares text.toList ([] ++ '@' :: after) := bares
    rw [parse_of_parts divided last, ofParts_eq_emptyLocalPart_iff]

/-- Without a domain, the text ends in an at sign, but not for want of a local part. -/
theorem parse_eq_emptyDomain_iff (bares : Bares text.toList naked) :
    parse text = .error .emptyDomain ↔ ∃ before, naked = before ++ ['@'] ∧ before ≠ [] := by
  constructor
  · intro refused
    by_cases signed : '@' ∈ naked
    · obtain ⟨before, after, rfl, last⟩ := exists_parts signed
      rw [parse_of_parts bares last, ofParts_eq_emptyDomain_iff] at refused
      exact ⟨before, by rw [refused.2], refused.1⟩
    · rw [parse_of_no_sign bares signed] at refused
      cases refused
  · rintro ⟨before, rfl, someLocal⟩
    rw [parse_of_parts bares List.not_mem_nil, ofParts_eq_emptyDomain_iff]
    exact ⟨someLocal, rfl⟩

/-! ### The written forms -/

theorem bares_render_iff {recipient : Recipient} :
    Bares text.toList recipient.render.toList ↔
      text = "<" ++ recipient.render ++ ">" ∨
        text = recipient.render ∧ ¬ Bracketed text.toList := by
  have wrapped : ("<" ++ recipient.render ++ ">").toList =
      '<' :: (recipient.render.toList ++ ['>']) := by
    rw [String.toList_append, String.toList_append]
    rfl
  rw [Bares, ← wrapped, String.toList_inj, String.toList_inj, and_comm]

theorem parse_eq_ok_iff_written {recipient : Recipient} :
    parse text = .ok recipient ↔
      (recipient.localPart ≠ "" ∧ recipient.domain ≠ "" ∧ '@' ∉ recipient.domain.toList) ∧
        (text = "<" ++ recipient.render ++ ">" ∨
          text = recipient.render ∧ ¬ Bracketed text.toList) := by
  have someIff : ∀ part : String, part.toList ≠ [] ↔ part ≠ "" := fun part =>
    not_congr String.toList_eq_nil_iff
  rw [parse_eq_ok_iff, ← bares_iff, bares_render_iff, someIff, someIff]
  constructor
  · rintro ⟨written, lastSign, someLocal, someDomain⟩
    exact ⟨⟨someLocal, someDomain, lastSign⟩, written⟩
  · rintro ⟨⟨someLocal, someDomain, lastSign⟩, written⟩
    exact ⟨written, lastSign, someLocal, someDomain⟩

/--
A text names a recipient just when it is the recipient's parts with an at sign
between them, the domain having none, and either stands between brackets or
does not look as if it did.  Otherwise what is left without the brackets has no
at sign, or its only one is the first character, or its last one is the last
character but not the first.  Between brackets any parts are read back,
whatever brackets they have.
-/
theorem parse_outcome (text : String) :
    (∀ localPart domain, parse text = .ok ⟨localPart, domain⟩ ↔
      (localPart ≠ "" ∧ domain ≠ "" ∧ '@' ∉ domain.toList) ∧
        (text = "<" ++ (localPart ++ "@" ++ domain) ++ ">" ∨
          text = localPart ++ "@" ++ domain ∧ ¬ Bracketed text.toList)) ∧
    (∃ naked, Bares text.toList naked ∧
      (parse text = .error .noAtSign ↔ '@' ∉ naked) ∧
      (parse text = .error .emptyLocalPart ↔ ∃ after, naked = '@' :: after ∧ '@' ∉ after) ∧
      (parse text = .error .emptyDomain ↔ ∃ before, naked = before ++ ['@'] ∧ before ≠ [])) ∧
    ∀ localPart domain,
      parse ("<" ++ (localPart ++ "@" ++ domain) ++ ">") = .ok ⟨localPart, domain⟩ ↔
        localPart ≠ "" ∧ domain ≠ "" ∧ '@' ∉ domain.toList := by
  refine ⟨fun localPart domain => parse_eq_ok_iff_written, ?_, ?_⟩
  · have bares : Bares text.toList (withoutBrackets text.toList) := bares_iff.mpr rfl
    exact ⟨_, bares, parse_eq_noAtSign_iff bares, parse_eq_emptyLocalPart_iff bares,
      parse_eq_emptyDomain_iff bares⟩
  · intro localPart domain
    rw [parse_eq_ok_iff_written]
    exact and_iff_left (Or.inl rfl)

end MailHost.Recipient
