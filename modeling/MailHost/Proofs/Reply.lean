import MailHost.Mail
import MailHost.Proofs.Text

/-!
# Replies on the wire

A reply is a row of lines, each with the code, and only the last has a space
after it.  Its text tells the code and the messages as long as no message has a
line end of its own.
-/

namespace MailHost

namespace Reply

def digits (code : ReplyCode) : List Char :=
  (toString code.number).toList

def lines (text : String) : List (List Char) :=
  (Text.pieces text.toList).dropLast

/--
A text that is one reply with the given code: it ends with a line end, and each
line starts with the code, which a hyphen follows on every line but the last and
a space on the last.
-/
structure IsReply (code : ReplyCode) (text : String) : Prop where
  ended : ['\r', '\n'] <:+ text.toList
  followed : ∀ line ∈ (lines text).dropLast, digits code ++ ['-'] <+: line
  final : ∃ line, (lines text).getLast? = some line ∧ digits code ++ [' '] <+: line

theorem not_mem_digits (code : ReplyCode) : '\r' ∉ digits code ++ [' '] := by
  cases code <;> decide

theorem toList_render_ofMessage (code : ReplyCode) (message : String) :
    (ofMessage code message).render.toList =
      (digits code ++ [' '] ++ message.toList) ++ ['\r', '\n'] := by
  change (toString code.number ++ " " ++ message ++ "\r\n").toList = _
  simp only [String.toList_append, digits]
  rfl

theorem lines_render_ofMessage (code : ReplyCode) (message : String) :
    lines (ofMessage code message).render =
      Text.pieces (digits code ++ [' '] ++ message.toList) := by
  rw [lines, toList_render_ofMessage, Text.pieces_append _ []]
  exact List.dropLast_concat

/-- The code goes before the first piece of the message. -/
theorem lines_render_ofMessage_eq_modifyHead (code : ReplyCode) (message : String) :
    lines (ofMessage code message).render =
      (Text.pieces message.toList).modifyHead (digits code ++ [' '] ++ ·) := by
  rw [lines_render_ofMessage, Text.pieces_append_of_not_mem (not_mem_digits code)]

/-- A reply with one message is well-formed just if the message has no line end. -/
theorem isReply_ofMessage_iff (code : ReplyCode) (message : String) :
    IsReply code (ofMessage code message).render ↔ ¬ Text.HasLineEnd message.toList := by
  constructor
  · intro isReply broken
    obtain ⟨first, second, others, cut⟩ := Text.exists_pieces_of_hasLineEnd broken
    have followed := isReply.followed
    rw [lines_render_ofMessage_eq_modifyHead, cut] at followed
    -- The first of several lines has a space after its code.
    have start := followed (digits code ++ [' '] ++ first) (by simp)
    rw [List.append_assoc, List.prefix_append_right_inj] at start
    exact absurd (List.cons_prefix_cons.mp start).1 (by decide)
  · intro unbroken
    have one := lines_render_ofMessage_eq_modifyHead code message
    rw [Text.pieces_of_not_hasLineEnd unbroken] at one
    refine ⟨?_, ?_, ?_⟩
    · rw [toList_render_ofMessage]
      exact List.suffix_append _ _
    · rw [one]
      intro line member
      cases member
    · rw [one]
      exact ⟨_, rfl, List.prefix_append _ _⟩

end Reply

/-!
## Replies are told apart by their text

However a reply came about, its text is that of its lines from the first to the
last.  Each message without a line end is on a line of its own, so the text
tells the code and the messages; only a reply without messages looks like one
with a single empty message.
-/

/-! ### How replies come about -/

inductive ReplyOpening where
  | bare (code : ReplyCode)
  | worded (code : ReplyCode) (message : String)

namespace ReplyOpening

def reply : ReplyOpening → Reply
  | .bare code => .ofCode code
  | .worded code message => .ofMessage code message

def code : ReplyOpening → ReplyCode
  | .bare code => code
  | .worded code _ => code

def message? : ReplyOpening → Option String
  | .bare _ => none
  | .worded _ message => some message

end ReplyOpening

/-- What is done to a reply later: a message is put behind the others, or the code is changed. -/
inductive ReplyChange where
  | push (message : String)
  | recode (code : ReplyCode)

namespace ReplyChange

def apply (reply : Reply) : ReplyChange → Reply
  | .push message => reply.push message
  | .recode code => { reply with code }

def message? : ReplyChange → Option String
  | .push message => some message
  | .recode _ => none

def code? : ReplyChange → Option ReplyCode
  | .push _ => none
  | .recode code => some code

end ReplyChange

namespace Reply

def drafted (opening : ReplyOpening) (changes : List ReplyChange) : Reply :=
  changes.foldl ReplyChange.apply opening.reply

def lastCode (opening : ReplyOpening) (changes : List ReplyChange) : ReplyCode :=
  (changes.filterMap ReplyChange.code?).getLast?.getD opening.code

def allMessages (opening : ReplyOpening) (changes : List ReplyChange) : List String :=
  opening.message?.toList ++ changes.filterMap ReplyChange.message?

theorem apply_eq (reply : Reply) (change : ReplyChange) :
    change.apply reply =
      ⟨change.code?.getD reply.code, reply.messages ++ change.message?.toList⟩ := by
  cases change with
  | push message => rfl
  | recode code =>
      apply congrArg (Reply.mk code)
      exact (List.append_nil reply.messages).symm

/-- The last code counts, and no message is lost. -/
theorem foldl_apply_eq (changes : List ReplyChange) (reply : Reply) :
    changes.foldl ReplyChange.apply reply =
      ⟨(changes.filterMap ReplyChange.code?).getLast?.getD reply.code,
        reply.messages ++ changes.filterMap ReplyChange.message?⟩ := by
  induction changes generalizing reply with
  | nil =>
      apply congrArg (Reply.mk reply.code)
      exact (List.append_nil reply.messages).symm
  | cons change rest ih =>
      rw [List.foldl_cons, ih, apply_eq]
      cases change with
      | push message => simp [ReplyChange.code?, ReplyChange.message?]
      | recode code =>
          simp [ReplyChange.code?, ReplyChange.message?, List.filterMap_cons, List.getLast?_cons]

theorem drafted_eq (opening : ReplyOpening) (changes : List ReplyChange) :
    drafted opening changes = ⟨lastCode opening changes, allMessages opening changes⟩ := by
  unfold drafted
  rw [foldl_apply_eq]
  cases opening <;> rfl

/-! ### Lines in order -/

def threeDigits : ReplyCode → String
  | .accepted => "250"
  | .deferred => "451"
  | .rejected => "550"

/--
The text of some messages from the first to the last: code, hyphen, message and
CRLF for each but the last, which has a space for the hyphen.  Without messages
there is one empty line.
-/
def forward (code : ReplyCode) : List String → String
  | [] => threeDigits code ++ " \r\n"
  | [last] => threeDigits code ++ " " ++ last ++ "\r\n"
  | message :: next :: rest =>
      threeDigits code ++ "-" ++ message ++ "\r\n" ++ forward code (next :: rest)

theorem toString_number (code : ReplyCode) : toString code.number = threeDigits code := by
  cases code <;> rfl

theorem innerLine_eq (code : ReplyCode) (message : String) :
    innerLine code message = threeDigits code ++ "-" ++ message ++ "\r\n" := by
  unfold innerLine
  rw [toString_number]

theorem forward_singleton (code : ReplyCode) (last : String) :
    forward code [last] = lastLine code last := by
  unfold forward lastLine
  rw [toString_number]

theorem forward_nil (code : ReplyCode) : forward code [] = lastLine code "" := by
  rw [← forward_singleton]
  cases code <;> rfl

theorem forward_cons (code : ReplyCode) (message : String) {later : List String}
    (nonempty : later ≠ []) :
    forward code (message :: later) = innerLine code message ++ forward code later := by
  cases later with
  | nil => exact absurd rfl nonempty
  | cons next rest =>
      rw [innerLine_eq]
      rfl

/-- Going back over the messages puts each line in front of the ones after it. -/
theorem prepend_forward (code : ReplyCode) (earlier : List String) {later : List String}
    (nonempty : later ≠ []) :
    prepend code (forward code later) earlier = forward code (earlier.reverse ++ later) := by
  induction earlier generalizing later with
  | nil => rfl
  | cons message before ih =>
      rw [List.reverse_cons, List.append_assoc]
      unfold prepend
      rw [← forward_cons code message nonempty]
      exact ih (List.cons_ne_nil message later)

theorem render_eq_forward (reply : Reply) :
    reply.render = forward reply.code reply.messages := by
  unfold render
  cases backwards : reply.messages.reverse with
  | nil =>
      rw [List.reverse_eq_nil_iff.mp backwards]
      exact (forward_nil reply.code).symm
  | cons last earlier =>
      have messages : reply.messages = earlier.reverse ++ [last] := by
        rw [← List.reverse_reverse reply.messages, backwards, List.reverse_cons]
      rw [messages, ← prepend_forward reply.code earlier (List.cons_ne_nil last []),
        forward_singleton]

/-! ### Lines read back -/

/-- A line of a reply: its code, the mark that tells whether another line follows, its message. -/
def markedLine (code : ReplyCode) (mark : Char) (message : String) : List Char :=
  digits code ++ mark :: message.toList

def markedLines (code : ReplyCode) : List String → List (List Char)
  | [] => [markedLine code ' ' ""]
  | [last] => [markedLine code ' ' last]
  | message :: next :: rest => markedLine code '-' message :: markedLines code (next :: rest)

theorem length_digits (code : ReplyCode) : (digits code).length = 3 := by
  cases code <;> rfl

theorem digits_inj {first second : ReplyCode} (same : digits first = digits second) :
    first = second := by
  revert same
  cases first <;> cases second <;> decide

/-- All codes have as many digits, so a line tells its code, its mark and its message. -/
theorem markedLine_inj {first second : ReplyCode} {mark other : Char} {message wording : String}
    (same : markedLine first mark message = markedLine second other wording) :
    first = second ∧ mark = other ∧ message = wording := by
  obtain ⟨codes, rest⟩ := List.append_inj same (by rw [length_digits, length_digits])
  obtain ⟨marks, messages⟩ := List.cons.inj rest
  exact ⟨digits_inj codes, marks, String.toList_inj.mp messages⟩

theorem toList_lastLine (code : ReplyCode) (message : String) :
    (lastLine code message).toList = markedLine code ' ' message ++ ['\r', '\n'] := by
  apply (toList_render_ofMessage code message).trans
  simp [markedLine]

theorem toList_innerLine (code : ReplyCode) (message : String) :
    (innerLine code message).toList = markedLine code '-' message ++ ['\r', '\n'] := by
  simp [innerLine, markedLine, digits, String.toList_append]

/-- A message without a line end is read as the one line it was written on. -/
theorem pieces_markedLine (code : ReplyCode) {mark : Char} {message : String} (plain : mark ≠ '\r')
    (unbroken : ¬ Text.HasLineEnd message.toList) (rest : List Char) :
    Text.pieces (markedLine code mark message ++ '\r' :: '\n' :: rest) =
      markedLine code mark message :: Text.pieces rest := by
  have front : '\r' ∉ digits code ++ [mark] := by
    rw [List.mem_append, List.mem_singleton, not_or]
    refine ⟨fun member => not_mem_digits code ?_, plain.symm⟩
    exact List.mem_append_left [' '] member
  have whole : ¬ Text.HasLineEnd (markedLine code mark message) := by
    have regrouped : markedLine code mark message = digits code ++ [mark] ++ message.toList := by
      simp [markedLine]
    rw [regrouped, Text.hasLineEnd_append_left_iff front]
    exact unbroken
  -- A carriage return at the end of the message stays there: the line end comes after it.
  rw [Text.pieces_append, Text.pieces_of_not_hasLineEnd whole]
  rfl

theorem pieces_forward (code : ReplyCode) {messages : List String}
    (unbroken : ∀ message ∈ messages, ¬ Text.HasLineEnd message.toList) :
    Text.pieces (forward code messages).toList = markedLines code messages ++ [[]] := by
  induction messages using forward.induct with
  | case1 =>
      rw [forward_nil, toList_lastLine]
      exact pieces_markedLine code (by decide) (by decide) []
  | case2 last =>
      rw [forward_singleton, toList_lastLine]
      exact pieces_markedLine code (by decide) (unbroken last (List.mem_singleton_self last)) []
  | case3 message next rest ih =>
      obtain ⟨here, later⟩ := List.forall_mem_cons.mp unbroken
      rw [forward_cons code message (List.cons_ne_nil next rest), String.toList_append,
        toList_innerLine, List.append_assoc]
      apply (pieces_markedLine code (by decide) here _).trans
      exact congrArg (List.cons (markedLine code '-' message)) (ih later)

theorem lines_forward (code : ReplyCode) {messages : List String}
    (unbroken : ∀ message ∈ messages, ¬ Text.HasLineEnd message.toList) :
    lines (forward code messages) = markedLines code messages := by
  unfold lines
  rw [pieces_forward code unbroken, List.dropLast_concat]

/-- The messages as a reply shows them: without any there is an empty one. -/
def shown : List String → List String
  | [] => [""]
  | messages => messages

theorem markedLines_shown (code : ReplyCode) (messages : List String) :
    markedLines code (shown messages) = markedLines code messages := by
  cases messages <;> rfl

theorem shown_ne_nil (messages : List String) : shown messages ≠ [] := by
  cases messages <;> exact List.cons_ne_nil _ _

theorem forward_shown (code : ReplyCode) (messages : List String) :
    forward code (shown messages) = forward code messages := by
  cases messages with
  | nil => rw [shown, forward_singleton, forward_nil]
  | cons message rest => rfl

/-- The mark behind a code tells where the messages end. -/
theorem markedLines_inj {first second : ReplyCode} {messages wordings : List String}
    (nonempty : messages ≠ []) (worded : wordings ≠ [])
    (same : markedLines first messages = markedLines second wordings) :
    first = second ∧ messages = wordings := by
  induction messages using forward.induct generalizing wordings with
  | case1 => exact absurd rfl nonempty
  | case2 last =>
      cases wordings with
      | nil => exact absurd rfl worded
      | cons wording others =>
          cases others with
          | nil =>
              obtain ⟨codes, _, rfl⟩ := markedLine_inj (List.cons.inj same).1
              exact ⟨codes, rfl⟩
          | cons following rest =>
              -- One reply ends here, with a space, and the other goes on, with a hyphen.
              exact absurd (markedLine_inj (List.cons.inj same).1).2.1 (by decide)
  | case3 message next rest ih =>
      cases wordings with
      | nil => exact absurd rfl worded
      | cons wording others =>
          cases others with
          | nil => exact absurd (markedLine_inj (List.cons.inj same).1).2.1 (by decide)
          | cons following more =>
              obtain ⟨head, tail⟩ := List.cons.inj same
              obtain ⟨codes, _, rfl⟩ := markedLine_inj head
              have later := ih (List.cons_ne_nil next rest) (List.cons_ne_nil following more) tail
              exact ⟨codes, congrArg (List.cons message) later.2⟩

/--
The text of a reply, whichever way it came about, has the messages it was given
on lines in order, with the last code it was given.  Two replies whose messages
have no line ends have the same text just if they have the same code and show
the same messages.
-/
theorem text_tells_reply :
    (∀ opening changes,
      (drafted opening changes).render =
        forward (lastCode opening changes) (allMessages opening changes)) ∧
    ∀ first second : Reply,
      (∀ message ∈ first.messages, ¬ Text.HasLineEnd message.toList) →
      (∀ message ∈ second.messages, ¬ Text.HasLineEnd message.toList) →
      (first.render = second.render ↔
        first.code = second.code ∧ shown first.messages = shown second.messages) := by
  constructor
  · intro opening changes
    rw [render_eq_forward, drafted_eq]
  · intro first second firstUnbroken secondUnbroken
    rw [render_eq_forward, render_eq_forward]
    constructor
    · intro same
      have lines : markedLines first.code (shown first.messages) =
          markedLines second.code (shown second.messages) := by
        rw [markedLines_shown, markedLines_shown, ← lines_forward first.code firstUnbroken,
          ← lines_forward second.code secondUnbroken, same]
      exact markedLines_inj (shown_ne_nil _) (shown_ne_nil _) lines
    · rintro ⟨codes, messages⟩
      rw [codes, ← forward_shown, messages, forward_shown]

/--
Messages that look like the start of a line, or have half a line end where the
code or the line end comes next, are not taken for anything else.
-/
theorem text_tells_reply_deceptive :
    let first := drafted (.bare .deferred) [.push "a\r", .recode .accepted, .push "\n250 b"]
    let second := drafted (.worded .accepted "a\r") [.push "\n250 b"]
    let third := drafted (.bare .accepted) [.push "a\r", .push "\n250", .push "b"]
    (∀ message ∈ first.messages, ¬ Text.HasLineEnd message.toList) ∧
      (∀ message ∈ second.messages, ¬ Text.HasLineEnd message.toList) ∧
      (∀ message ∈ third.messages, ¬ Text.HasLineEnd message.toList) ∧
      first.render = "250-a\r\r\n250 \n250 b\r\n" ∧
      third.render = "250-a\r\r\n250-\n250\r\n250 b\r\n" ∧
      (drafted (.worded .rejected "5.1.1 No") [.push "such", .push "user"]).render =
        "550-5.1.1 No\r\n550-such\r\n550 user\r\n" ∧
      (drafted (.bare .accepted) [.recode .deferred]).render = "451 \r\n" ∧
      first.render = second.render ∧ first.render ≠ third.render ∧
      (ofCode .accepted).render = (ofMessage .accepted "").render := by
  intro first second third
  have firstUnbroken : ∀ message ∈ first.messages, ¬ Text.HasLineEnd message.toList := by
    decide +kernel
  have secondUnbroken : ∀ message ∈ second.messages, ¬ Text.HasLineEnd message.toList := by
    decide +kernel
  have thirdUnbroken : ∀ message ∈ third.messages, ¬ Text.HasLineEnd message.toList := by
    decide +kernel
  have inOrder := text_tells_reply.1
  refine ⟨firstUnbroken, secondUnbroken, thirdUnbroken, inOrder _ _, inOrder _ _, inOrder _ _,
    inOrder _ _, ?_, ?_, ?_⟩
  · exact (text_tells_reply.2 first second firstUnbroken secondUnbroken).mpr ⟨rfl, rfl⟩
  · intro same
    have shown := (text_tells_reply.2 first third firstUnbroken thirdUnbroken).mp same
    exact absurd shown.2 (by decide)
  · exact (text_tells_reply.2 _ _ (by decide) (by decide)).mpr ⟨rfl, rfl⟩

end Reply

end MailHost
