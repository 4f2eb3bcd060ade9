import MailHost.Delivery
import MailHost.Proofs.Recipient
import MailHost.Proofs.Reply

/-!
# Replies to deliveries

A message that is not stored is answered with the text of its recipient in one
line.  That text may have line ends, which nothing takes out: what is between
two of them is then a line of the reply.
-/

namespace MailHost.Delivery

open Reply (IsReply lines digits)
open Text (HasLineEnd)

variable {σ μ : Type} [Registry σ] [MailStore μ] (domains : LocalDomains σ) (resolver : Resolver)
  (boxes : μ) (virtualHosting : Bool) (recipient : Recipient) (message : ByteArray)

/-- A reply that has the written form of a recipient in its only message. -/
structure Mentions (recipient : Recipient) (reply : Reply) : Prop where
  unaccepted : reply.code ≠ .accepted
  framed : ∃ front back : String, '\r' ∉ front.toList ∧ '\n' ∉ back.toList ∧
    reply.messages = [front ++ recipient.render ++ back]

theorem mentions_notPermitted : Mentions recipient (notPermitted recipient) where
  unaccepted := by intro same; cases same
  framed := ⟨"5.7.1 Relaying to ", " not permitted", by decide, by decide, rfl⟩

theorem mentions_notChecked : Mentions recipient (notChecked recipient) where
  unaccepted := by intro same; cases same
  framed := ⟨"4.3.0 Temporary error checking domain of ", "", by decide, by decide,
    by rw [String.append_empty]; rfl⟩

theorem mentions_notStored : Mentions recipient (notStored recipient) where
  unaccepted := by intro same; cases same
  framed := ⟨"Temporary error deliver message to ", "", by decide, by decide,
    by rw [String.append_empty]; rfl⟩

/-- Whatever is answered by the domains and the mail store, one of four replies is given. -/
theorem deliver_reply :
    let reply := (deliver domains resolver boxes virtualHosting recipient message).value.1
    reply = received ∨ Mentions recipient reply := by
  simp only [deliver, Traced.value_bind]
  cases (domains.accepts resolver recipient.domain).value with
  | error cause => exact Or.inr (mentions_notChecked recipient)
  | ok accepted =>
      cases accepted with
      | false => exact Or.inr (mentions_notPermitted recipient)
      | true =>
          simp only [Traced.value_bind]
          generalize (store boxes (username virtualHosting recipient) message).value = ending
          obtain ⟨result, stored⟩ := ending
          cases result with
          | error cause => exact Or.inr (mentions_notStored recipient)
          | ok _ => exact Or.inl rfl

section Text

variable {recipient : Recipient} {reply : Reply} {text : String}

theorem Mentions.exists_ofMessage (mentions : Mentions recipient reply) :
    ∃ front back : String, '\r' ∉ front.toList ∧ '\n' ∉ back.toList ∧
      reply = .ofMessage reply.code (front ++ recipient.render ++ back) := by
  obtain ⟨front, back, noReturn, noFeed, only⟩ := mentions.framed
  obtain ⟨code, messages⟩ := reply
  exact ⟨front, back, noReturn, noFeed, congrArg (Reply.mk code) only⟩

theorem Mentions.isReply_iff (mentions : Mentions recipient reply) :
    IsReply reply.code reply.render ↔ ¬ HasLineEnd recipient.render.toList := by
  obtain ⟨front, back, noReturn, noFeed, only⟩ := mentions.exists_ofMessage
  generalize reply.code = code at only ⊢
  rw [only, Reply.isReply_ofMessage_iff, String.toList_append, String.toList_append,
    Text.hasLineEnd_append_right_iff noFeed, Text.hasLineEnd_append_left_iff noReturn]

/-- What the recipient has between two line ends is a line of the reply. -/
theorem Mentions.mem_lines (mentions : Mentions recipient reply) {before line after : List Char}
    (written : recipient.render.toList =
      before ++ '\r' :: '\n' :: (line ++ '\r' :: '\n' :: after))
    (unbroken : ¬ HasLineEnd line) : line ∈ lines reply.render := by
  obtain ⟨front, back, _, _, only⟩ := mentions.exists_ofMessage
  generalize reply.code = code at only
  have whole : digits code ++ [' '] ++ (front ++ recipient.render ++ back).toList =
      (digits code ++ [' '] ++ front.toList ++ before) ++ '\r' :: '\n' ::
        (line ++ '\r' :: '\n' :: (after ++ back.toList)) := by
    simp [written]
  rw [only, Reply.lines_render_ofMessage, whole]
  exact Text.mem_pieces_between unbroken _ _

theorem isReply_received : IsReply received.code received.render := by
  apply (Reply.isReply_ofMessage_iff _ _).mpr
  decide +kernel

theorem hasLineEnd_render_iff (parsed : Recipient.parse text = .ok recipient) :
    HasLineEnd recipient.render.toList ↔ HasLineEnd text.toList := by
  rcases Recipient.text_of_parse parsed with rfl | rfl
  · rfl
  · have opening : '\r' ∉ "<".toList := by decide
    have closing : '\n' ∉ ">".toList := by decide
    rw [String.toList_append, String.toList_append, Text.hasLineEnd_append_right_iff closing,
      Text.hasLineEnd_append_left_iff opening]

end Text

/--
The answer to a delivery ends with a line end, and it is one well-formed reply
just if the message was stored or the text of the address has no line end.
Otherwise each line that the address has between two line ends is a line of the
answer.
-/
theorem reply_well_formed_iff {text : String} {recipient : Recipient}
    (parsed : Recipient.parse text = .ok recipient) :
    let reply := (deliver domains resolver boxes virtualHosting recipient message).value.1
    ['\r', '\n'] <:+ reply.render.toList ∧
    (IsReply reply.code reply.render ↔ reply.code = .accepted ∨ ¬ HasLineEnd text.toList) ∧
    (reply.code ≠ .accepted → ∀ before line after,
      recipient.render.toList = before ++ '\r' :: '\n' :: (line ++ '\r' :: '\n' :: after) →
      ¬ HasLineEnd line → line ∈ lines reply.render) := by
  intro reply
  rcases deliver_reply domains resolver boxes virtualHosting recipient message with
    stored | mentions
  · have code : reply.code = .accepted := congrArg Reply.code stored
    have isReply : IsReply reply.code reply.render := by
      rw [show reply = received from stored]
      exact isReply_received
    exact ⟨isReply.ended, iff_of_true isReply (Or.inl code), fun other => absurd code other⟩
  · refine ⟨?_, ?_, fun _ before line after written => mentions.mem_lines written⟩
    · obtain ⟨front, back, _, _, only⟩ := mentions.exists_ofMessage
      rw [show reply = _ from only, Reply.toList_render_ofMessage]
      exact List.suffix_append _ _
    · rw [← hasLineEnd_render_iff parsed, or_iff_right mentions.unaccepted]
      exact mentions.isReply_iff

/-- The answer to mail for a recipient where no domain is registered and no inbox is there. -/
def answerTo (recipient : Recipient) : Reply :=
  (deliver (LocalDomains.ofStore MemoryRegistry.empty) HostTable.initial.resolver Mailboxes.empty
    false recipient .empty).value.1

/-- A recipient whose local part has the line of a message that was stored. -/
def forger : Recipient :=
  ⟨"x\r\n250 2.6.0 Message received\r\n", "nove.dev"⟩

theorem reply_well_formed_iff_foreign :
    let plain : Recipient := ⟨"gen", "nove.dev"⟩
    (Recipient.parse "<gen@nove.dev>" = .ok plain ∧
        IsReply (answerTo plain).code (answerTo plain).render) ∧
      Recipient.parse forger.render = .ok forger ∧
        (answerTo forger).code ≠ .accepted ∧
        forger.render.toList = ['x'] ++ '\r' :: '\n' ::
          ("250 2.6.0 Message received".toList ++ '\r' :: '\n' :: "@nove.dev".toList) ∧
        ¬ HasLineEnd "250 2.6.0 Message received".toList ∧
        "250 2.6.0 Message received".toList ∈ lines (answerTo forger).render := by
  intro plain
  have plainParsed : Recipient.parse "<gen@nove.dev>" = .ok plain := rfl
  have forgerParsed : Recipient.parse forger.render = .ok forger := rfl
  have unbroken : ¬ HasLineEnd "<gen@nove.dev>".toList := by decide +kernel
  have refused : (answerTo forger).code ≠ .accepted := by decide +kernel
  have written : forger.render.toList = ['x'] ++ '\r' :: '\n' ::
      ("250 2.6.0 Message received".toList ++ '\r' :: '\n' :: "@nove.dev".toList) := by
    decide +kernel
  have single : ¬ HasLineEnd "250 2.6.0 Message received".toList := by decide +kernel
  let domains := LocalDomains.ofStore MemoryRegistry.empty
  have wellFormed := (reply_well_formed_iff domains HostTable.initial.resolver Mailboxes.empty
    false .empty plainParsed).2.1.mpr (Or.inr unbroken)
  have forged := (reply_well_formed_iff domains HostTable.initial.resolver Mailboxes.empty
    false .empty forgerParsed).2.2 refused _ _ _ written single
  exact ⟨⟨plainParsed, wellFormed⟩, forgerParsed, refused, written, single, forged⟩

/-- An address is read whose refusal has a line that reads as if a message was stored. -/
theorem reply_line_forged :
    Recipient.parse "x\r\n250 2.6.0 Message received\r\n@nove.dev" = .ok forger ∧
      (answerTo forger).render =
        "550 5.7.1 Relaying to x\r\n250 2.6.0 Message received\r\n@nove.dev not permitted\r\n" ∧
      ¬ IsReply (answerTo forger).code (answerTo forger).render := by
  have mentions : Mentions forger (answerTo forger) := mentions_notPermitted forger
  refine ⟨rfl, by decide +kernel, ?_⟩
  rw [mentions.isReply_iff]
  decide +kernel

end MailHost.Delivery
