import MailHost.Proofs.Text
import MailHost.Resolver.Literal

/-!
# Written addresses are read back

An address is read back from its text as it was, whichever run of zero groups
the double colon stands for.  So no two addresses have one text: not an address
of four octets and the groups that carry them, and not two rows of groups that
differ where one of them has zeros.
-/

namespace MailHost.Address

/-!
## Numbers in addresses

An octet is written in decimal and a group in hexadecimal, both without leading
zeros, and each is read back as it was.  No digit is a dot or a colon, so the
numbers stay apart from what is put between them.
-/

/-! ### Digits -/

theorem exists_digitChar_of_mem {base number : Nat} {c : Char} (large : 1 < base)
    (member : c ∈ Nat.toDigits base number) : ∃ digit < base, c = digit.digitChar := by
  induction number using Nat.strongRecOn with
  | ind number ih =>
      rw [Nat.toDigits_eq_if large] at member
      split at member
      · next single => exact ⟨number, single, List.mem_singleton.mp member⟩
      · next several =>
          rcases List.mem_append.mp member with earlier | last
          · exact ih _ (Nat.div_lt_self (by omega) large) earlier
          · exact ⟨number % base, Nat.mod_lt _ (by omega), List.mem_singleton.mp last⟩

theorem not_mem_toDigits_dot {base : Nat} (large : 1 < base) (number : Nat) :
    '.' ∉ Nat.toDigits base number := by
  intro member
  obtain ⟨digit, _, same⟩ := exists_digitChar_of_mem large member
  exact Nat.digitChar_ne '.' (by decide) same.symm

theorem not_mem_toDigits_colon {base : Nat} (large : 1 < base) (number : Nat) :
    ':' ∉ Nat.toDigits base number := by
  intro member
  obtain ⟨digit, _, same⟩ := exists_digitChar_of_mem large member
  exact Nat.digitChar_ne ':' (by decide) same.symm

/-- Only the number zero starts with a zero. -/
theorem head?_toDigits_ne_zero {base number : Nat} (large : 1 < base) (positive : 0 < number) :
    (Nat.toDigits base number).head? ≠ some '0' := by
  induction number using Nat.strongRecOn with
  | ind number ih =>
      rw [Nat.toDigits_eq_if large]
      split
      · intro zero
        exact absurd (Nat.digitChar_eq_zero.mp (Option.some.inj zero)) (by omega)
      · next several =>
          have quotient : 0 < number / base := Nat.div_pos (by omega) (by omega)
          have earlier := ih _ (Nat.div_lt_self positive large) quotient
          obtain ⟨first, rest, spelled⟩ := List.exists_cons_of_ne_nil
            (Nat.toDigits_ne_nil (n := number / base) (b := base))
          rw [spelled] at earlier ⊢
          exact earlier

/-! ### Octets -/

theorem octet?_toDigits (octet : UInt8) : octet? (Nat.toDigits 10 octet.toNat) = some octet := by
  have bound := octet.toNat_lt
  have short : (Nat.toDigits 10 octet.toNat).length ≤ 3 :=
    (Nat.length_toDigits_le_iff (by decide) (by decide)).mpr (by omega)
  have digits : (Nat.toDigits 10 octet.toNat).all Char.isDigit = true :=
    List.all_eq_true.mpr fun c member =>
      Nat.isDigit_of_mem_toDigits (by decide) (by decide) member
  have unpadded : ¬ ((Nat.toDigits 10 octet.toNat).head? = some '0' ∧
      1 < (Nat.toDigits 10 octet.toNat).length) := by
    rintro ⟨zero, long⟩
    rcases Nat.eq_zero_or_pos octet.toNat with same | positive
    · rw [same, Nat.toDigits_zero] at long
      exact absurd long (by decide)
    · exact head?_toDigits_ne_zero (by decide) positive zero
  have value : Nat.ofDigitChars 10 (Nat.toDigits 10 octet.toNat) 0 = octet.toNat :=
    Nat.ofDigitChars_ten_toDigits
  rw [octet?, if_neg]
  · simp only [value, if_pos bound, UInt8.ofNat_toNat]
  · simp only [digits, Bool.not_true, Bool.or_false, Bool.or_eq_true, List.isEmpty_iff,
      decide_eq_true_eq, Bool.and_eq_true, not_or]
    exact ⟨⟨Nat.toDigits_ne_nil, Nat.not_lt.mpr short⟩, unpadded⟩

/-! ### Groups -/

theorem hexDigit?_digitChar {digit : Nat} (small : digit < 16) :
    hexDigit? digit.digitChar = some digit := by
  have all : ∀ digit < 16, hexDigit? digit.digitChar = some digit := by decide
  exact all digit small

theorem hexDigits_toDigits (number : Nat) :
    ∃ values, (Nat.toDigits 16 number).mapM hexDigit? = some values ∧
      values.foldl (fun total value => total * 16 + value) 0 = number := by
  induction number using Nat.strongRecOn with
  | ind number ih =>
      rw [Nat.toDigits_eq_if (by decide)]
      split
      · next single =>
          refine ⟨[number], ?_, by simp⟩
          simp [hexDigit?_digitChar single]
      · next several =>
          have smaller : number / 16 < number := Nat.div_lt_self (by omega) (by decide)
          obtain ⟨values, read, total⟩ := ih (number / 16) smaller
          have last := hexDigit?_digitChar (Nat.mod_lt number (by decide : 0 < 16))
          refine ⟨values ++ [number % 16], ?_, ?_⟩
          · simp [List.mapM_append, read, last]
          · rw [List.foldl_append, total, List.foldl_cons, List.foldl_nil]
            omega

theorem group?_toDigits (group : UInt16) : group? (Nat.toDigits 16 group.toNat) = some group := by
  have bound := group.toNat_lt
  have short : (Nat.toDigits 16 group.toNat).length ≤ 4 :=
    (Nat.length_toDigits_le_iff (by decide) (by decide)).mpr (by omega)
  obtain ⟨values, read, total⟩ := hexDigits_toDigits group.toNat
  rw [group?, if_neg]
  · rw [read, Option.map_some, total, UInt16.ofNat_toNat]
  · simp only [Bool.or_eq_true, List.isEmpty_iff, decide_eq_true_eq, not_or]
    exact ⟨Nat.toDigits_ne_nil, Nat.not_lt.mpr short⟩

theorem group_octets (group : UInt16) :
    Address.group (highOctet group) (lowOctet group) = group := by
  have bound := group.toNat_lt
  apply UInt16.toNat.inj
  simp only [highOctet, lowOctet, Address.group, UInt16.toNat_ofNat', UInt8.toNat_ofNat']
  omega

/-! ## Written addresses are read back -/

/-! ### Octets with dots -/

theorem octets?_dotted (a b c d : UInt8) : octets? (dotted a b c d) = some (a, b, c, d) := by
  have plain : ∀ piece ∈ [a, b, c, d].map (fun octet => Nat.toDigits 10 octet.toNat),
      '.' ∉ piece := by
    intro piece member
    obtain ⟨octet, _, rfl⟩ := List.mem_map.mp member
    exact not_mem_toDigits_dot (by decide) octet.toNat
  rw [octets?, dotted, List.splitOn_intercalate '.' plain (List.cons_ne_nil _ _)]
  simp only [List.map_cons, List.map_nil, octet?_toDigits]

theorem octets?_of_no_dot {text : List Char} (plain : '.' ∉ text) : octets? text = none := by
  rw [octets?, List.splitOn_eq_singleton plain, List.map_singleton]
  cases octet? text <;> rfl

theorem isDigit_of_octet? {digits : List Char} {octet : UInt8}
    (read : octet? digits = some octet) : ∀ c ∈ digits, c.isDigit = true := by
  rw [octet?] at read
  split at read
  · cases read
  · next accepted =>
      simp only [Bool.or_eq_true, Bool.not_eq_true', not_or, Bool.not_eq_false] at accepted
      exact List.all_eq_true.mp accepted.1.2

theorem octets?_of_colon {text : List Char} (colon : ':' ∈ text) : octets? text = none := by
  rw [octets?]
  split
  · next a b c d read =>
      have whole : ['.'].intercalate (text.splitOn '.') = text := List.intercalate_splitOn '.'
      rw [← whole] at colon
      rcases Text.mem_of_mem_intercalate colon with dot | ⟨piece, listed, inside⟩
      · exact absurd dot (by decide)
      · have taken : octet? piece ∈ [some a, some b, some c, some d] :=
          read ▸ List.mem_map_of_mem listed
        have number : ∃ octet, octet? piece = some octet := by
          simp only [List.mem_cons, List.not_mem_nil, or_false] at taken
          rcases taken with same | same | same | same <;> exact ⟨_, same⟩
        obtain ⟨octet, same⟩ := number
        exact absurd (isDigit_of_octet? same ':' inside) (by decide)
  · rfl

/-! ### Groups with colons -/

theorem colonSeparated_cons_cons (group next : UInt16) (rest : List UInt16) :
    colonSeparated (group :: next :: rest) =
      Nat.toDigits 16 group.toNat ++ ':' :: colonSeparated (next :: rest) := by
  rw [colonSeparated, List.map_cons, List.map_cons, List.intercalate_cons_cons,
    List.append_assoc]
  rfl

theorem colonSeparated_singleton (group : UInt16) :
    colonSeparated [group] = Nat.toDigits 16 group.toNat := by
  rw [colonSeparated, List.map_singleton, List.intercalate_singleton]

/-- A row of groups starts with a digit. -/
theorem colonSeparated_cons (group : UInt16) (rest : List UInt16) :
    ∃ first text, colonSeparated (group :: rest) = first :: text ∧ first ≠ ':' := by
  obtain ⟨first, digits, written⟩ := List.exists_cons_of_ne_nil
    (Nat.toDigits_ne_nil (n := group.toNat) (b := 16))
  have digit : first ≠ ':' := by
    rintro rfl
    exact not_mem_toDigits_colon (by decide) group.toNat (written ▸ List.mem_cons_self ..)
  cases rest with
  | nil => exact ⟨first, digits, by rw [colonSeparated_singleton, written], digit⟩
  | cons next others =>
      refine ⟨first, digits ++ ':' :: colonSeparated (next :: others), ?_, digit⟩
      rw [colonSeparated_cons_cons, written, List.cons_append]

theorem colonPieces_colonSeparated (groups : List UInt16) :
    colonPieces (colonSeparated groups) = groups.map fun group => Nat.toDigits 16 group.toNat := by
  cases groups with
  | nil => rfl
  | cons group rest =>
      obtain ⟨first, text, written, _⟩ := colonSeparated_cons group rest
      have plain : ∀ piece ∈ (group :: rest).map (fun group => Nat.toDigits 16 group.toNat),
          ':' ∉ piece := by
        intro piece member
        obtain ⟨group, _, rfl⟩ := List.mem_map.mp member
        exact not_mem_toDigits_colon (by decide) group.toNat
      have inked : ¬ (colonSeparated (group :: rest)).isEmpty = true := by
        rw [written]
        exact Bool.false_ne_true
      rw [colonPieces, if_neg inked, colonSeparated,
        List.splitOn_intercalate ':' plain (List.cons_ne_nil _ _)]

theorem mapM_group?_digits (groups : List UInt16) :
    (groups.map fun group => Nat.toDigits 16 group.toNat).mapM group? = some groups := by
  induction groups with
  | nil => rfl
  | cons group rest ih =>
      rw [List.map_cons, List.mapM_cons, group?_toDigits, ih]
      rfl

theorem groups?_digits (groups : List UInt16) :
    groups? (groups.map fun group => Nat.toDigits 16 group.toNat) = some groups := by
  induction groups with
  | nil => rfl
  | cons group rest ih =>
      cases rest with
      | nil =>
          have single := octets?_of_no_dot (not_mem_toDigits_dot (by decide : 1 < 16) group.toNat)
          simp [groups?, single, group?_toDigits]
      | cons next others =>
          simp only [List.map_cons] at ih ⊢
          simp only [groups?, group?_toDigits, ih]

/-! ### The double colon -/

theorem cutAtGap?_append {front : List Char} (plain : ':' ∉ front) (text : List Char) :
    cutAtGap? (front ++ text) =
      (cutAtGap? text).map fun (before, after) => (front ++ before, after) := by
  induction front with
  | nil => cases cut : cutAtGap? text <;> simp [cut]
  | cons c rest ih =>
      rw [List.mem_cons, not_or] at plain
      rw [List.cons_append, cutAtGap?, if_neg fun opens => plain.1 opens.1.symm, ih plain.2]
      cases cutAtGap? text <;> rfl

theorem cutAtGap?_cons_of_ne {c : Char} (different : c ≠ ':') (text : List Char) :
    cutAtGap? (':' :: c :: text) =
      (cutAtGap? (c :: text)).map fun (before, after) => (':' :: before, after) := by
  rw [cutAtGap?, if_neg]
  rintro ⟨_, twice⟩
  exact different (Option.some.inj twice)

/-- No double colon is within a row of groups, nor does one start at its last character. -/
theorem cutAtGap?_colonSeparated_append (groups : List UInt16) (text : List Char) :
    cutAtGap? (colonSeparated groups ++ text) =
      (cutAtGap? text).map fun (before, after) => (colonSeparated groups ++ before, after) := by
  induction groups with
  | nil => exact cutAtGap?_append List.not_mem_nil text
  | cons group rest ih =>
      have digits := not_mem_toDigits_colon (by decide : 1 < 16) group.toNat
      cases rest with
      | nil =>
          rw [colonSeparated_singleton]
          exact cutAtGap?_append digits text
      | cons next others =>
          obtain ⟨first, more, written, different⟩ := colonSeparated_cons next others
          rw [written, List.cons_append] at ih
          rw [colonSeparated_cons_cons, List.append_assoc, cutAtGap?_append digits, written,
            List.cons_append, List.cons_append, cutAtGap?_cons_of_ne different, ih]
          cases cutAtGap? text <;> simp

/-- How some groups are written: as they are, or with a double colon for zeros among them. -/
inductive Shortened (groups : List UInt16) : List Char → Prop where
  | plain : Shortened groups (colonSeparated groups)
  | gap (first last : List UInt16) (zeros : Nat) (several : 2 ≤ zeros)
      (whole : groups = first ++ List.replicate zeros 0 ++ last) :
      Shortened groups (colonSeparated first ++ [':', ':'] ++ colonSeparated last)

theorem readV6?_shortened {groups : List UInt16} {text : List Char} (eight : groups.length = 8)
    (shortened : Shortened groups text) : readV6? text = ofGroups? groups := by
  cases shortened with
  | plain =>
      have unbroken := cutAtGap?_colonSeparated_append groups []
      rw [List.append_nil] at unbroken
      rw [readV6?, unbroken]
      simp [cutAtGap?, colonPieces_colonSeparated, groups?_digits]
  | gap first last zeros several whole =>
      have opened : cutAtGap? (colonSeparated first ++ [':', ':'] ++ colonSeparated last) =
          some (colonSeparated first, colonSeparated last) := by
        rw [List.append_assoc, cutAtGap?_colonSeparated_append]
        simp [cutAtGap?]
      have lengths : first.length + zeros + last.length = 8 := by
        rw [← eight, whole]
        simp [Nat.add_assoc]
      have missing : 8 - first.length - last.length = zeros := by omega
      have short : first.length + last.length < 8 := by omega
      rw [readV6?, opened]
      simp only [colonPieces_colonSeparated, mapM_group?_digits, groups?_digits, if_pos short,
        missing, whole]

/-! ### The longest run of zeros -/

theorem leadingZeros_spec (groups : List UInt16) :
    groups = List.replicate (leadingZeros groups) 0 ++ groups.drop (leadingZeros groups) := by
  induction groups with
  | nil => rfl
  | cons group rest ih =>
      rw [leadingZeros]
      split
      · next zero =>
          rw [List.replicate_succ, List.cons_append, List.drop_succ_cons, ← ih, zero]
      · rfl

/-- What is taken for a run of zeros is one. -/
theorem longestZeros_spec (groups : List UInt16) :
    groups = groups.take (longestZeros groups).1 ++
      List.replicate (longestZeros groups).2 0 ++
        groups.drop ((longestZeros groups).1 + (longestZeros groups).2) := by
  induction groups with
  | nil => rfl
  | cons group rest ih =>
      simp only [longestZeros]
      split
      · rw [List.take_zero, List.nil_append, Nat.zero_add]
        exact leadingZeros_spec (group :: rest)
      · rw [List.take_succ_cons, Nat.add_right_comm, List.drop_succ_cons, List.cons_append,
          List.cons_append, ← ih]

theorem compressed_shortened (groups : List UInt16) : Shortened groups (compressed groups) := by
  simp only [compressed]
  split
  · next several => exact .gap _ _ _ several (longestZeros_spec groups)
  · exact .plain

theorem colon_mem_of_shortened {groups : List UInt16} {text : List Char}
    (shortened : Shortened groups text) (several : 2 ≤ groups.length) : ':' ∈ text := by
  cases shortened with
  | plain =>
      obtain ⟨group, next, rest, rfl⟩ : ∃ group next rest, groups = group :: next :: rest := by
        match groups, several with
        | group :: next :: rest, _ => exact ⟨group, next, rest, rfl⟩
      rw [colonSeparated_cons_cons]
      exact List.mem_append_right _ (List.mem_cons_self ..)
  | gap first last zeros _ _ =>
      exact List.mem_append_left _ (List.mem_append_right _ (List.mem_cons_self ..))

/-! ### Addresses -/

theorem not_mem_dotted_colon (a b c d : UInt8) : ':' ∉ dotted a b c d := by
  intro member
  rcases Text.mem_of_mem_intercalate member with dot | ⟨piece, listed, inside⟩
  · exact absurd dot (by decide)
  · obtain ⟨octet, _, rfl⟩ := List.mem_map.mp listed
    exact not_mem_toDigits_colon (by decide) octet.toNat inside

/-- Octets behind a double colon and a full group are read as the groups that carry them. -/
theorem readV6?_carried (a b c d : UInt8) :
    readV6? ("::ffff:".toList ++ dotted a b c d) =
      some (.v6 0 0 0 0 0 0xffff (group a b) (group c d)) := by
  have opened : cutAtGap? ("::ffff:".toList ++ dotted a b c d) =
      some ([], "ffff".toList ++ ':' :: dotted a b c d) := rfl
  have pieces : colonPieces ("ffff".toList ++ ':' :: dotted a b c d) =
      ["ffff".toList, dotted a b c d] := by
    have cut := List.splitOn_append_cons_self (a := ':') "ffff".toList (dotted a b c d)
    rw [List.splitOn_eq_singleton (not_mem_dotted_colon a b c d)] at cut
    exact cut
  have full : group? "ffff".toList = some 0xffff := by decide
  have groups : groups? ["ffff".toList, dotted a b c d] = some [0xffff, group a b, group c d] := by
    simp only [groups?, full, octets?_dotted]
  rw [readV6?, opened]
  simp only [pieces, groups]
  rfl

theorem parse?_render (address : Address) : parse? address.render = some address := by
  rw [parse?, render, String.toList_ofList]
  cases address with
  | v4 a b c d =>
      have read : readV4? (dotted a b c d) = some (.v4 a b c d) := by
        rw [readV4?, octets?_dotted, Option.map_some]
      rw [written, read]
  | v6 a b c d e f g h =>
      have refused : ∀ text : List Char, ':' ∈ text → readV4? text = none := by
        intro text colon
        rw [readV4?, octets?_of_colon colon, Option.map_none]
      by_cases carried : [a, b, c, d, e, f] = [0, 0, 0, 0, 0, 0xffff]
      · have colon : ':' ∈ "::ffff:".toList := by decide
        rw [written, if_pos carried, refused _ (List.mem_append_left _ colon), readV6?_carried,
          group_octets, group_octets]
        cases carried
        rfl
      · have shortened := compressed_shortened [a, b, c, d, e, f, g, h]
        rw [written, if_neg carried,
          refused _ (colon_mem_of_shortened shortened (by decide : 2 ≤ 8)),
          readV6?_shortened rfl shortened]
        rfl

/-- No two addresses have one text. -/
theorem render_injective {first second : Address} (same : first.render = second.render) :
    first = second := by
  have read := congrArg parse? same
  rw [parse?_render, parse?_render] at read
  exact Option.some.inj read

/-- Four octets, and the groups that carry them, are written differently. -/
example : (v4 10 0 0 1).render = "10.0.0.1" ∧
    (v6 0 0 0 0 0 0xffff 0x0a00 0x0001).render = "::ffff:10.0.0.1" := by
  decide

end MailHost.Address
