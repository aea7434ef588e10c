import Mathlib.Data.List.Nodup
import Mathlib.Order.Bounds.Basic
import Mathlib.Order.MinMax
import Uptime.Bot.Client

/-!
# Polling

The bot asks for updates again and again, each time from the offset on. The service promises that
no number comes up twice in a batch and that none lies before the offset. After a batch the offset
lies beyond all of its numbers, so what has been handed out once is not asked for again, and no
message is handled twice.

## Main definitions

* `Update.Promised`: what the service promises about a batch.
* `Heard`, `Update.heard?`: a message that is handled.
* `Bot.listen`, `Bot.received`: some polls, and the updates that they bring.
* `Bot.Attentive`: what holds of some polls.

## Main results

* `isGreatest_nextOffset`: the offset after a batch, whatever its order.
* `Conversation.handleUpdates_eq`: the messages of a batch are handled once, in its order.
* `Bot.offset_listen_mono`: the offset never decreases.
* `Bot.nodup_received`: no number comes up twice in any number of polls.
* `Bot.attentive_listen`: polls are attentive as long as the service keeps its promise.
-/

namespace Uptime

/-! ### Batches -/

/-- The greatest number of 64 bits. -/
def maxNumber : Int := 9223372036854775807

/-- What the service promises about a batch that is asked for from a number on: no number comes up
twice or lies before that one, and the one after each has 64 bits too. -/
structure Update.Promised (offset : Int) (us : List Update) : Prop where
  nodup : (us.map Update.number).Nodup
  offset_le : ∀ u ∈ us, offset ≤ u.number
  succ_le : ∀ u ∈ us, u.number + 1 ≤ maxNumber

instance (offset : Int) (us : List Update) : Decidable (Update.Promised offset us) :=
  decidable_of_iff ((us.map Update.number).Nodup ∧ (∀ u ∈ us, offset ≤ u.number) ∧
    ∀ u ∈ us, u.number + 1 ≤ maxNumber)
    ⟨fun ⟨h₁, h₂, h₃⟩ => ⟨h₁, h₂, h₃⟩, fun ⟨h₁, h₂, h₃⟩ => ⟨h₁, h₂, h₃⟩⟩

/-- **The offset after a batch** is the greatest of the offset before and the numbers after those of
the batch. -/
theorem isGreatest_nextOffset (offset : Int) (us : List Update) :
    IsGreatest {n | n = offset ∨ ∃ u ∈ us, n = u.number + 1} (nextOffset offset us) := by
  induction us generalizing offset with
  | nil =>
    refine ⟨.inl rfl, ?_⟩
    rintro n (rfl | ⟨u, hu, -⟩)
    · exact le_rfl
    · cases hu
  | cons u us ih =>
    obtain ⟨hmem, hupper⟩ := ih (max offset (u.number + 1))
    have hnext : nextOffset offset (u :: us) = nextOffset (max offset (u.number + 1)) us := rfl
    rw [hnext]
    constructor
    · rcases hmem with hmax | ⟨v, hv, heq⟩
      · rcases max_choice offset (u.number + 1) with hold | hnew
        · exact .inl (hmax.trans hold)
        · exact .inr ⟨u, List.mem_cons_self, hmax.trans hnew⟩
      · exact .inr ⟨v, List.mem_cons_of_mem _ hv, heq⟩
    · have hfirst := hupper (.inl rfl)
      rintro n (rfl | ⟨v, hv, rfl⟩)
      · exact (le_max_left _ _).trans hfirst
      · rcases List.mem_cons.mp hv with rfl | hv
        · exact (le_max_right _ _).trans hfirst
        · exact hupper (.inr ⟨v, hv, rfl⟩)

theorem le_nextOffset (offset : Int) (us : List Update) : offset ≤ nextOffset offset us :=
  (isGreatest_nextOffset offset us).2 (.inl rfl)

theorem number_lt_nextOffset {u : Update} {us : List Update} (hu : u ∈ us) (offset : Int) :
    u.number < nextOffset offset us :=
  Int.lt_of_add_one_le ((isGreatest_nextOffset offset us).2 (.inr ⟨u, hu, rfl⟩))

/-! ### Messages -/

/-- A message that is handled. -/
structure Heard where
  /-- The number of its update. -/
  number : Int
  /-- The chat. -/
  chat : ChatId
  /-- The text, which is not empty. -/
  text : String
  deriving DecidableEq, Repr

/-- The message of an update that is handled. -/
def Update.heard? (u : Update) : Option Heard :=
  u.text?.map fun (chat, text) => ⟨u.number, chat, text⟩

theorem Update.heard?_eq_some_iff {u : Update} {h : Heard} :
    u.heard? = some h ↔ u = ⟨h.number, some ⟨h.chat, some h.text⟩⟩ ∧ h.text ≠ "" := by
  obtain ⟨number, message⟩ := u
  obtain ⟨number', chat', text'⟩ := h
  rcases message with _ | ⟨chat, _ | text⟩
  · simp [heard?, text?]
  · simp [heard?, text?]
  · by_cases hempty : text = ""
    · subst hempty
      simp +contextual [heard?, text?, eq_comm]
    · simp only [heard?, text?, Option.bind_eq_bind, Option.bind_some, if_neg hempty,
        Option.map_some, Option.some.injEq, Heard.mk.injEq, Update.mk.injEq, Message.mk.injEq]
      constructor
      · rintro ⟨rfl, rfl, rfl⟩
        exact ⟨⟨rfl, rfl, rfl⟩, hempty⟩
      · rintro ⟨⟨rfl, rfl, rfl⟩, -⟩
        exact ⟨rfl, rfl, rfl⟩

theorem Update.number_of_heard? {u : Update} {h : Heard} (hu : u.heard? = some h) :
    h.number = u.number := by
  rw [(heard?_eq_some_iff.mp hu).1]

/-- The numbers of the messages are among those of the updates, in their order. -/
theorem numbers_heard_sublist (us : List Update) :
    ((us.filterMap Update.heard?).map Heard.number).Sublist (us.map Update.number) := by
  have hnumbers : (us.filterMap Update.heard?).map Heard.number =
      (us.filter fun u => u.heard?.isSome).map Update.number := by
    induction us with
    | nil => rfl
    | cons u us ih =>
      cases hu : u.heard? with
      | none => simp [hu, ih]
      | some h => simp [hu, ih, Update.number_of_heard? hu]
  rw [hnumbers]
  exact List.filter_sublist.map _

namespace Conversation

variable {σ τ : Type}

/-- Handles messages one after the other. -/
def handleAll (src : Source σ) (ch : Channel τ) (allowed : ChatId) (c : Conversation σ τ)
    (hs : List Heard) : Conversation σ τ :=
  hs.foldl (fun c h => c.handle src ch allowed h.chat h.text) c

/-- **The messages of a batch are handled once, in its order**, whatever becomes of the replies. -/
theorem handleUpdates_eq (src : Source σ) (ch : Channel τ) (allowed : ChatId)
    (c : Conversation σ τ) (us : List Update) :
    c.handleUpdates src ch allowed us =
      c.handleAll src ch allowed (us.filterMap Update.heard?) := by
  induction us generalizing c with
  | nil => rfl
  | cons u us ih =>
    have hcons : c.handleUpdates src ch allowed (u :: us) =
        (c.handleUpdate src ch allowed u).handleUpdates src ch allowed us := rfl
    rw [hcons, ih]
    cases hu : u.text? with
    | none => simp [handleUpdate, Update.heard?, hu]
    | some message => simp [handleUpdate, Update.heard?, hu, handleAll]

end Conversation

/-! ### Polls -/

namespace Bot

variable {σ τ : Type} (b : Bot) (net : Network σ) (src : Source τ)

/-- The batch that the next poll brings, unless it fails or cannot be read. -/
def batch? (p : Polling τ σ) : Option (List Update) :=
  (b.fetch net p.offset pollSeconds p.conversation.channel).1.toOption

/-- The conversation when the next poll has come back and no update has been taken. -/
def polled (p : Polling τ σ) : Conversation τ σ :=
  { p.conversation with
    channel := (b.fetch net p.offset pollSeconds p.conversation.channel).2 }

/-- Some polls, one after the other. -/
def listen : Nat → Polling τ σ → Polling τ σ
  | 0, p => p
  | n + 1, p => listen n (b.poll net src p)

/-- The updates that some polls bring, in order. -/
def received : Nat → Polling τ σ → List Update
  | 0, _ => []
  | n + 1, p => (b.batch? net p).getD [] ++ received n (b.poll net src p)

section

variable {b : Bot} {net : Network σ} {src : Source τ} {p : Polling τ σ} {us : List Update}

/-- A poll that fails only changes the state of the network. -/
theorem poll_of_none (h : b.batch? net p = none) :
    b.poll net src p = ⟨p.offset, b.polled net p⟩ := by
  rw [batch?] at h
  simp only [poll, h]
  rfl

/-- What a batch does. -/
theorem poll_of_some (h : b.batch? net p = some us) :
    b.poll net src p = ⟨nextOffset p.offset us,
      (b.polled net p).handleAll src (b.channel net) b.chat (us.filterMap Update.heard?)⟩ := by
  rw [batch?] at h
  simp only [poll, h, Polling.take, Conversation.handleUpdates_eq]
  rfl

theorem offset_poll (b : Bot) (net : Network σ) (src : Source τ) (p : Polling τ σ) :
    (b.poll net src p).offset = nextOffset p.offset ((b.batch? net p).getD []) := by
  cases h : b.batch? net p with
  | none => rw [poll_of_none h]; rfl
  | some us => rw [poll_of_some h]; rfl

theorem listen_succ (b : Bot) (net : Network σ) (src : Source τ) (n : Nat) (p : Polling τ σ) :
    b.listen net src (n + 1) p = b.poll net src (b.listen net src n p) := by
  induction n generalizing p with
  | zero => rfl
  | succ n ih => rw [listen, ih, listen]

/-- **The offset never decreases.** -/
theorem offset_listen_mono (b : Bot) (net : Network σ) (src : Source τ) (p : Polling τ σ)
    {i j : Nat} (h : i ≤ j) : (b.listen net src i p).offset ≤ (b.listen net src j p).offset := by
  induction j, h using Nat.le_induction with
  | base => exact le_rfl
  | succ j _ ih =>
    rw [listen_succ, offset_poll]
    exact ih.trans (le_nextOffset _ _)

end

/-- The service keeps its promise for some polls. -/
def Kept (n : Nat) (p : Polling τ σ) : Prop :=
  ∀ k < n, ∀ us ∈ b.batch? net (b.listen net src k p),
    Update.Promised (b.listen net src k p).offset us

instance (n : Nat) (p : Polling τ σ) : Decidable (Kept b net src n p) :=
  inferInstanceAs (Decidable (∀ k < n, ∀ us ∈ b.batch? net (b.listen net src k p),
    Update.Promised (b.listen net src k p).offset us))

section

variable {b : Bot} {net : Network σ} {src : Source τ} {n : Nat} {p : Polling τ σ}

theorem Kept.head (h : Kept b net src (n + 1) p) :
    Update.Promised p.offset ((b.batch? net p).getD []) := by
  cases hbatch : b.batch? net p with
  | none => exact ⟨List.nodup_nil, by simp, by simp⟩
  | some us => exact h 0 (Nat.succ_pos n) us hbatch

theorem Kept.tail (h : Kept b net src (n + 1) p) : Kept b net src n (b.poll net src p) :=
  fun k hk us hus => h (k + 1) (Nat.succ_lt_succ hk) us hus

/-- What is received lies at the offset or after it. -/
theorem offset_le_of_mem_received (h : Kept b net src n p) :
    ∀ u ∈ b.received net src n p, p.offset ≤ u.number := by
  induction n generalizing p with
  | zero => simp [received]
  | succ n ih =>
    intro u hu
    rcases List.mem_append.mp hu with hu | hu
    · exact h.head.offset_le u hu
    · refine le_trans ?_ (ih h.tail u hu)
      rw [offset_poll]
      exact le_nextOffset _ _

/-- **No number comes up twice** in any number of polls, for each batch lies at the offset or after
it, and all batches before lie before it. -/
theorem nodup_received (h : Kept b net src n p) :
    ((b.received net src n p).map Update.number).Nodup := by
  induction n generalizing p with
  | zero => exact List.nodup_nil
  | succ n ih =>
    rw [received, List.map_append]
    refine List.nodup_append.mpr ⟨h.head.nodup, ih h.tail, ?_⟩
    intro i hi j hj
    obtain ⟨u, hu, rfl⟩ := List.mem_map.mp hi
    obtain ⟨v, hv, rfl⟩ := List.mem_map.mp hj
    have hbefore := number_lt_nextOffset hu p.offset
    have hafter := offset_le_of_mem_received h.tail v hv
    rw [offset_poll] at hafter
    exact (hbefore.trans_le hafter).ne

theorem offset_listen_le (h : Kept b net src n p) :
    (b.listen net src n p).offset ≤ max p.offset maxNumber := by
  induction n generalizing p with
  | zero => exact le_max_left _ _
  | succ n ih =>
    refine (ih h.tail).trans (max_le ?_ (le_max_right _ _))
    rw [offset_poll]
    rcases (isGreatest_nextOffset p.offset ((b.batch? net p).getD [])).1 with heq | ⟨u, hu, heq⟩
    · exact heq.le.trans (le_max_left _ _)
    · exact heq.le.trans ((h.head.succ_le u hu).trans (le_max_right _ _))

end

/-- What holds of some polls. -/
structure Attentive (n : Nat) (p : Polling τ σ) : Prop where
  /-- A poll that fails or cannot be read changes nothing but the state of the network. -/
  failed : ∀ k < n, b.batch? net (b.listen net src k p) = none →
    b.listen net src (k + 1) p =
      ⟨(b.listen net src k p).offset, b.polled net (b.listen net src k p)⟩
  /-- After a batch the offset is the greatest of the one before and the numbers after those of
  the batch, -/
  offset_eq : ∀ k < n, ∀ us, b.batch? net (b.listen net src k p) = some us →
    IsGreatest {m | m = (b.listen net src k p).offset ∨ ∃ u ∈ us, m = u.number + 1}
      (b.listen net src (k + 1) p).offset
  /-- and the messages of the batch that have a text have been handled once, in its order. -/
  handled : ∀ k < n, ∀ us, b.batch? net (b.listen net src k p) = some us →
    (b.listen net src (k + 1) p).conversation =
      (b.polled net (b.listen net src k p)).handleAll src (b.channel net) b.chat
        (us.filterMap Update.heard?)
  /-- The offset never decreases, -/
  offset_mono : ∀ i j, i ≤ j → (b.listen net src i p).offset ≤ (b.listen net src j p).offset
  /-- and it always has 64 bits. -/
  offset_le : ∀ k ≤ n, (b.listen net src k p).offset ≤ max p.offset maxNumber
  /-- No number is received twice, -/
  nodup_received : ((b.received net src n p).map Update.number).Nodup
  /-- and none is handled twice. -/
  nodup_heard : (((b.received net src n p).filterMap Update.heard?).map Heard.number).Nodup

/-- **Polls are attentive** as long as the service keeps its promise. -/
theorem attentive_listen {b : Bot} {net : Network σ} {src : Source τ} {n : Nat}
    {p : Polling τ σ} (h : Kept b net src n p) : Attentive b net src n p where
  failed k hk hnone := by rw [listen_succ, poll_of_none hnone]
  offset_eq k hk us hus := by
    rw [listen_succ, poll_of_some hus]
    exact isGreatest_nextOffset _ us
  handled k hk us hus := by rw [listen_succ, poll_of_some hus]
  offset_mono i j h := offset_listen_mono b net src p h
  offset_le k hk := offset_listen_le fun j hj => h j (hj.trans_le hk)
  nodup_received := Bot.nodup_received h
  nodup_heard := (Bot.nodup_received h).sublist (numbers_heard_sublist _)

/-- The first batch is out of order, and one of its updates has no message; the reply to the first
of the two messages fails. The second poll cannot be read, and asking again brings another
message. -/
theorem attentive_listen_out_of_order :
    let net : Network (List String) := ⟨fun _ _ s => (s.head?, s.tail)⟩
    let src : Source Unit :=
      ⟨fun s => (({} : Registry).snapshot (.atMillis 0), s), fun _ _ _ s => (none, s)⟩
    let b : Bot := ⟨⟨"http", none, none, some [""]⟩, "t", 1⟩
    let answers : List String :=
      ["[true, [[7, [[1], \"/help\"]], [5, null], [6, [[1], \"/list\"]]], null, null]",
       "[false, null, \"too many requests\", 429]", "[true, [1], null, null]",
       "[true, [[8, [[1]", "[true, [[8, [[1], \"/start\"]]], null, null]",
       "[true, [2], null, null]"]
    let p : Polling Unit (List String) := { conversation := ⟨(), answers, [], []⟩ }
    Kept b net src 3 p ∧
      (b.received net src 3 p).map Update.number = [7, 5, 6, 8] ∧
      ((b.received net src 3 p).filterMap Update.heard?).map Heard.number = [7, 6, 8] ∧
      [0, 1, 2, 3].map (fun k => (b.listen net src k p).offset) = [0, 8, 8, 9] ∧
      (b.listen net src 3 p).conversation.calls.map Call.succeeded = [false, true, true] ∧
      Attentive b net src 3 p := by
  intro net src b answers p
  -- the polls are evaluated once for all
  obtain ⟨hkept, hreceived, hheard, hoffsets, hcalls⟩ : Kept b net src 3 p ∧
      (b.received net src 3 p).map Update.number = [7, 5, 6, 8] ∧
      ((b.received net src 3 p).filterMap Update.heard?).map Heard.number = [7, 6, 8] ∧
      [0, 1, 2, 3].map (fun k => (b.listen net src k p).offset) = [0, 8, 8, 9] ∧
      (b.listen net src 3 p).conversation.calls.map Call.succeeded = [false, true, true] := by
    decide +kernel
  exact ⟨hkept, hreceived, hheard, hoffsets, hcalls, attentive_listen hkept⟩

end Bot

end Uptime
