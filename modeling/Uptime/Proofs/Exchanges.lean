import Mathlib.Data.List.Forall2
import Uptime.Chat.Update

/-!
# Updates and exchanges

Most updates do not matter: only a message from the allowed chat that has a known command does. Each of
these leads to an exchange: a question, if the command needs one, and then the replies, all of which
are sent, whatever becomes of the ones before. What a batch does is one exchange after the other.

## Main definitions

* `Update.Relevant`: an update that is a message with a known command from the allowed chat.
* `Request.replies`: the replies to a request, as they follow from the answer to its question.
* `Exchange`: what comes of one update.
* `Exchanges`: exchanges that follow each other.
* `Answered`: updates that lead to exchanges, and these to queries and calls.

## Main results

* `Conversation.handleUpdates_filter`: other updates make no difference.
* `Conversation.exists_answered`: each update leads to an exchange.
* `Polling.take_relevant`: what a batch does.
-/

namespace Uptime

/-! ### Relevant updates -/

/-- The words of the commands that are answered. -/
def knownWords : List String := ["start", "help", "list", "status", "logs"]

/-- Every known command asks for something, and no other one does. -/
theorem Request.isSome_ofCommand?_iff {c : Command} :
    (ofCommand? c).isSome = true ↔ c.word ∈ knownWords := by
  obtain ⟨word, argument⟩ := c
  constructor
  · intro h
    dsimp only [ofCommand?] at h
    split at h <;> simp_all [knownWords]
  · intro h
    simp only [knownWords, List.mem_cons, List.not_mem_nil, or_false] at h
    rcases h with rfl | rfl | rfl | rfl | rfl
    · rfl
    · rfl
    · rfl
    · rfl
    · cases argument <;> rfl

/-- What a text asks for. -/
def Request.ofText? (text : String) : Option Request := (Command.ofText? text).bind ofCommand?

namespace Update

/-- A message with a known command from the allowed chat. -/
inductive Relevant (allowed : ChatId) : Update → Prop
  | intro (number : Int) {text : String} {c : Command} (hne : text ≠ "")
      (hcommand : Command.ofText? text = some c) (hword : c.word ∈ knownWords) :
      Relevant allowed ⟨number, some ⟨allowed, some text⟩⟩

/-- What an update asks for. -/
inductive Asks (allowed : ChatId) : Update → Request → Prop
  | intro (number : Int) {text : String} {r : Request} (hne : text ≠ "")
      (hrequest : Request.ofText? text = some r) :
      Asks allowed ⟨number, some ⟨allowed, some text⟩⟩ r

/-- What an update asks for, if anything. -/
def request? (allowed : ChatId) (u : Update) : Option Request :=
  u.text?.bind fun (chat, text) => Request.ofMessage? allowed chat text

section

variable {allowed : ChatId} {u : Update} {r : Request}

theorem request?_eq_some_iff : u.request? allowed = some r ↔ Asks allowed u r := by
  constructor
  · intro h
    obtain ⟨⟨chat, text⟩, htext, hrequest⟩ := Option.bind_eq_some_iff.mp h
    obtain ⟨number, message⟩ := u
    rcases message with _ | ⟨chat', _ | text'⟩
    · cases htext
    · cases htext
    · by_cases hne : text' = ""
      · subst hne
        cases htext
      · simp only [text?, Option.bind_eq_bind, Option.bind_some, if_neg hne] at htext
        cases htext
        dsimp only [Request.ofMessage?] at hrequest
        split at hrequest
        · next heq =>
          subst heq
          exact .intro number hne hrequest
        · cases hrequest
  · rintro ⟨number, hne, hrequest⟩
    simpa [request?, text?, hne, Request.ofMessage?, Request.ofText?] using hrequest

theorem relevant_iff : Relevant allowed u ↔ (u.request? allowed).isSome = true := by
  rw [Option.isSome_iff_exists]
  constructor
  · rintro ⟨number, hne, hcommand, hword⟩
    obtain ⟨r, hr⟩ := Option.isSome_iff_exists.mp (Request.isSome_ofCommand?_iff.mpr hword)
    refine ⟨r, request?_eq_some_iff.mpr (.intro number hne ?_)⟩
    rw [Request.ofText?, hcommand]
    exact hr
  · rintro ⟨r, hr⟩
    obtain ⟨number, hne, hrequest⟩ := request?_eq_some_iff.mp hr
    obtain ⟨c, hcommand, hc⟩ := Option.bind_eq_some_iff.mp hrequest
    refine .intro number hne hcommand (Request.isSome_ofCommand?_iff.mp ?_)
    rw [hc]
    rfl

instance (allowed : ChatId) : DecidablePred (Relevant allowed) := fun _ =>
  decidable_of_iff _ relevant_iff.symm

end

end Update

/-! ### Answers and replies -/

/-- The answer to a query. -/
inductive Answer
  /-- The present states. -/
  | snapshot (s : Snapshot)
  /-- The latest rows of a target; none if it is not being watched. -/
  | rows (rows : Option (List Row))

/-- Answers a query. -/
def Source.answer {σ : Type} (src : Source σ) (s : σ) : Query → Answer × σ
  | .snapshot => (.snapshot (src.snapshot s).1, (src.snapshot s).2)
  | .logs target days limit =>
    (.rows (src.logs target days limit s).1, (src.logs target days limit s).2)

/-- Answers a query, if there is one. -/
def Source.answer? {σ : Type} (src : Source σ) (s : σ) : Option Query → Option Answer × σ
  | none => (none, s)
  | some q => (some (src.answer s q).1, (src.answer s q).2)

namespace Request

/-- The query that a request needs, if it needs one. -/
def query? : Request → Option Query
  | help => none
  | list => some .snapshot
  | status => some .snapshot
  | logsUsage => none
  | logs target => some (.logs target logDays logLimit)

/-- The replies to a request, as they follow from the answer to its query. There are none if that is
the answer to another query. -/
def replies : Request → Option Answer → List String
  | help, none => [Reply.help]
  | list, some (.snapshot s) => [Reply.list s]
  | status, some (.snapshot s) => [Reply.status s]
  | logsUsage, none => [Reply.logsUsage]
  | logs target, some (.rows rows) => logReplies target rows
  | _, _ => []

end Request

/-- Sends texts to a chat in order, whatever becomes of each; tells which of them were delivered. -/
def Channel.sendEach {τ : Type} (ch : Channel τ) (chat : ChatId) : List String → τ → List Bool × τ
  | [], t => ([], t)
  | text :: texts, t =>
    ((ch.sendTo chat text t).1 :: (ch.sendEach chat texts (ch.sendTo chat text t).2).1,
      (ch.sendEach chat texts (ch.sendTo chat text t).2).2)

theorem Channel.length_sendEach {τ : Type} (ch : Channel τ) (chat : ChatId) (texts : List String)
    (t : τ) : (ch.sendEach chat texts t).1.length = texts.length := by
  induction texts generalizing t with
  | nil => rfl
  | cons text texts ih => rw [sendEach, List.length_cons, List.length_cons, ih]

namespace Conversation

variable {σ τ : Type} (src : Source σ) (ch : Channel τ) (chat : ChatId) (c : Conversation σ τ)

/-- The query of a request is asked, and nothing else. -/
theorem ask_eq (r : Request) : c.ask src r =
    (r.replies (src.answer? c.source r.query?).1,
      { c with
        source := (src.answer? c.source r.query?).2
        queries := c.queries ++ r.query?.toList }) := by
  cases r with
  | help => simp [ask, Request.replies, Request.query?, Source.answer?]
  | logsUsage => simp [ask, Request.replies, Request.query?, Source.answer?]
  | list => rfl
  | status => rfl
  | logs target => rfl

/-- Every reply is sent, whatever becomes of the others. -/
theorem replyAll_eq (texts : List String) : c.replyAll ch chat texts =
    { c with
      channel := (ch.sendEach chat texts c.channel).2
      calls := c.calls ++ texts.zipWith (Call.sendTo chat) (ch.sendEach chat texts c.channel).1 } := by
  induction texts generalizing c with
  | nil => simp [replyAll, Channel.sendEach]
  | cons text texts ih =>
    have hstep : c.replyAll ch chat (text :: texts) = (c.reply ch chat text).replyAll ch chat texts :=
      rfl
    rw [hstep, ih]
    simp [reply, Channel.sendEach]

end Conversation

/-! ### Exchanges -/

/-- What comes of one update. -/
structure Exchange where
  request : Request
  /-- The answer to the query of the request, if it has one. -/
  answer : Option Answer
  /-- Which of the replies were delivered. -/
  outcomes : List Bool

namespace Exchange

variable (e : Exchange)

/-- The queries of an exchange. -/
def queries : List Query := e.request.query?.toList

/-- The replies of an exchange. -/
def replies : List String := e.request.replies e.answer

/-- The calls of an exchange. -/
def calls (allowed : ChatId) : List Call := e.replies.zipWith (Call.sendTo allowed) e.outcomes

end Exchange

section

variable {σ τ : Type} (src : Source σ) (ch : Channel τ) (allowed : ChatId)

/-- Exchanges that follow each other. In each of them the query is answered first, and then the
replies are sent, all of them in order. -/
inductive Exchanges : σ → τ → List Exchange → σ → τ → Prop
  /-- Nothing happens. -/
  | nil (s : σ) (t : τ) : Exchanges s t [] s t
  /-- An exchange, and then others. -/
  | cons {e : Exchange} {es : List Exchange} {s s₁ s₂ : σ} {t t₁ t₂ : τ}
      (hanswer : src.answer? s e.request.query? = (e.answer, s₁))
      (hsent : ch.sendEach allowed e.replies t = (e.outcomes, t₁))
      (hrest : Exchanges s₁ t₁ es s₂ t₂) : Exchanges s t (e :: es) s₂ t₂

theorem Exchanges.append {src : Source σ} {ch : Channel τ} {allowed : ChatId} {s s₁ s₂ : σ}
    {t t₁ t₂ : τ} {es es' : List Exchange} (h : Exchanges src ch allowed s t es s₁ t₁)
    (h' : Exchanges src ch allowed s₁ t₁ es' s₂ t₂) :
    Exchanges src ch allowed s t (es ++ es') s₂ t₂ := by
  induction h with
  | nil => exact h'
  | cons hanswer hsent _ ih => exact .cons hanswer hsent (ih h')

/-- In each exchange every reply is sent, in order. -/
theorem Exchanges.map_text_calls {src : Source σ} {ch : Channel τ} {allowed : ChatId} {s s' : σ}
    {t t' : τ} {es : List Exchange} (h : Exchanges src ch allowed s t es s' t') :
    ∀ e ∈ es, (e.calls allowed).map Call.text = e.replies := by
  induction h with
  | nil => simp
  | @cons e es _ _ _ t _ _ _ hsent _ ih =>
    refine List.forall_mem_cons.mpr ⟨?_, ih⟩
    have hlength : e.replies.length = e.outcomes.length := by
      rw [← ch.length_sendEach allowed e.replies t, hsent]
    rw [Exchange.calls, ← List.map_uncurry_zip_eq_zipWith, List.map_map]
    exact List.map_fst_zip (Nat.le_of_eq hlength)

/-- Nothing is sent to any other chat. -/
theorem Exchange.eq_sendTo_of_mem_calls {e : Exchange} {call : Call} (h : call ∈ e.calls allowed) :
    ∃ text ok, call = .sendTo allowed text ok := by
  rw [calls, ← List.map_uncurry_zip_eq_zipWith] at h
  obtain ⟨⟨text, ok⟩, -, rfl⟩ := List.mem_map.mp h
  exact ⟨text, ok, rfl⟩

/-- Updates that lead to exchanges, one each, and a conversation that these lead to another one. -/
structure Answered (c : Conversation σ τ) (us : List Update) (es : List Exchange)
    (c' : Conversation σ τ) : Prop where
  /-- Each exchange is about what its update asks for, -/
  asked : List.Forall₂ (fun u e => Update.Asks allowed u e.request) us es
  /-- and one follows the other. -/
  exchanges : Exchanges src ch allowed c.source c.channel es c'.source c'.channel
  /-- The queries are those of the exchanges, in their order, -/
  queries_eq : c'.queries = c.queries ++ es.flatMap Exchange.queries
  /-- and so are the calls. -/
  calls_eq : c'.calls = c.calls ++ es.flatMap (·.calls allowed)

theorem Answered.append {src : Source σ} {ch : Channel τ} {allowed : ChatId}
    {c c₁ c₂ : Conversation σ τ} {us us' : List Update} {es es' : List Exchange}
    (h : Answered src ch allowed c us es c₁) (h' : Answered src ch allowed c₁ us' es' c₂) :
    Answered src ch allowed c (us ++ us') (es ++ es') c₂ where
  asked := List.rel_append h.asked h'.asked
  exchanges := h.exchanges.append h'.exchanges
  queries_eq := by
    rw [h'.queries_eq, h.queries_eq, List.flatMap_append, List.append_assoc]
  calls_eq := by
    rw [h'.calls_eq, h.calls_eq, List.flatMap_append, List.append_assoc]

namespace Conversation

variable {src : Source σ} {ch : Channel τ} {allowed : ChatId} {c : Conversation σ τ} {u : Update}
  {us : List Update}

/-- An update that asks for nothing changes nothing. -/
theorem handleUpdate_of_none (h : u.request? allowed = none) :
    c.handleUpdate src ch allowed u = c := by
  rw [Update.request?, Option.bind_eq_none_iff] at h
  cases htext : u.text? with
  | none => rw [handleUpdate, htext]
  | some message =>
    obtain ⟨chat, text⟩ := message
    have hnone := h (chat, text) htext
    simp only at hnone
    simp only [handleUpdate, htext, handle, hnone]

/-- What an update asks for is what is met. -/
theorem handleUpdate_of_asks {r : Request} (h : Update.Asks allowed u r) :
    c.handleUpdate src ch allowed u = (c.ask src r).2.replyAll ch allowed (c.ask src r).1 := by
  obtain ⟨number, hne, hrequest⟩ := h
  rw [Request.ofText?] at hrequest
  simp only [handleUpdate, Update.text?, Option.bind_eq_bind, Option.bind_some, if_neg hne, handle,
    Request.ofMessage?, if_pos, hrequest]

/-- **Other updates make no difference.** -/
theorem handleUpdates_filter (src : Source σ) (ch : Channel τ) (allowed : ChatId)
    (c : Conversation σ τ) (us : List Update) :
    c.handleUpdates src ch allowed (us.filter (Update.Relevant allowed ·)) =
      c.handleUpdates src ch allowed us := by
  induction us generalizing c with
  | nil => rfl
  | cons u us ih =>
    have hcons : c.handleUpdates src ch allowed (u :: us) =
        (c.handleUpdate src ch allowed u).handleUpdates src ch allowed us := rfl
    by_cases hu : Update.Relevant allowed u
    · rw [List.filter_cons_of_pos (by simpa using hu), hcons, ← ih]
      rfl
    · have hnone : u.request? allowed = none := by
        rw [Update.relevant_iff] at hu
        simpa using hu
      rw [List.filter_cons_of_neg (by simpa using hu), ih, hcons, handleUpdate_of_none hnone]

/-- What one update leads to. -/
theorem exists_exchange (src : Source σ) (ch : Channel τ) (c : Conversation σ τ) {r : Request}
    (h : Update.Asks allowed u r) :
    ∃ e, Answered src ch allowed c [u] [e] (c.handleUpdate src ch allowed u) := by
  obtain ⟨answer, s, hanswer⟩ : ∃ answer s, src.answer? c.source r.query? = (answer, s) :=
    ⟨_, _, rfl⟩
  obtain ⟨outcomes, t, hsent⟩ : ∃ outcomes t,
      ch.sendEach allowed (r.replies answer) c.channel = (outcomes, t) := ⟨_, _, rfl⟩
  have hstep : c.handleUpdate src ch allowed u =
      ⟨s, t, c.queries ++ r.query?.toList,
        c.calls ++ (r.replies answer).zipWith (Call.sendTo allowed) outcomes⟩ := by
    simp only [handleUpdate_of_asks h, ask_eq, replyAll_eq, hanswer, hsent]
  refine ⟨⟨r, answer, outcomes⟩, .cons h .nil, ?_, ?_, ?_⟩
  · rw [hstep]
    exact .cons hanswer hsent (.nil s t)
  · rw [hstep, List.flatMap_singleton]
    rfl
  · rw [hstep, List.flatMap_singleton]
    rfl

/-- **Each update leads to an exchange**, one after the other. -/
theorem exists_answered (src : Source σ) (ch : Channel τ) (c : Conversation σ τ)
    (h : ∀ u ∈ us, Update.Relevant allowed u) :
    ∃ es, Answered src ch allowed c us es (c.handleUpdates src ch allowed us) := by
  induction us generalizing c with
  | nil => exact ⟨[], .nil, .nil _ _, (List.append_nil _).symm, (List.append_nil _).symm⟩
  | cons u us ih =>
    obtain ⟨hu, hus⟩ := List.forall_mem_cons.mp h
    obtain ⟨r, hr⟩ := Option.isSome_iff_exists.mp (Update.relevant_iff.mp hu)
    obtain ⟨e, hfirst⟩ := exists_exchange src ch c (Update.request?_eq_some_iff.mp hr)
    obtain ⟨es, hrest⟩ := ih (c.handleUpdate src ch allowed u) hus
    exact ⟨e :: es, hfirst.append hrest⟩

end Conversation

/-- **What a batch does.** The updates that are not relevant could as well be left out. Each of the
others leads to an exchange: the replies follow from what its text asks for and the answer to the one
query that may need, all of them are sent in order, and to the allowed chat only. The queries and the
calls are those of the exchanges, one exchange after the other. -/
theorem Polling.take_relevant (p : Polling σ τ) (us : List Update) :
    let relevant := us.filter (Update.Relevant allowed ·)
    let p' := p.take src ch allowed (some us)
    p'.conversation = (p.take src ch allowed (some relevant)).conversation ∧
      ∃ es, Answered src ch allowed p.conversation relevant es p'.conversation ∧
        (∀ e ∈ es, (e.calls allowed).map Call.text = e.request.replies e.answer) ∧
        ∀ call ∈ es.flatMap (·.calls allowed), ∃ text ok, call = .sendTo allowed text ok := by
  intro relevant p'
  have hfilter : p'.conversation = (p.take src ch allowed (some relevant)).conversation :=
    (Conversation.handleUpdates_filter src ch allowed p.conversation us).symm
  have hrelevant : ∀ u ∈ relevant, Update.Relevant allowed u := fun u hu => by
    simpa using List.of_mem_filter hu
  obtain ⟨es, hanswered⟩ := Conversation.exists_answered src ch p.conversation hrelevant
  refine ⟨hfilter, es, ?_, hanswered.exchanges.map_text_calls, fun call hcall => ?_⟩
  · rw [hfilter]
    exact hanswered
  · obtain ⟨e, -, hmem⟩ := List.mem_flatMap.mp hcall
    exact Exchange.eq_sendTo_of_mem_calls allowed hmem

end

/-- A foreign message, an update without a message, an unknown command, and two commands that are
answered, although the first reply is not delivered. -/
example :
    let src : Source Unit :=
      ⟨fun s => (({} : Registry).snapshot (.atMillis 0), s), fun _ _ _ s => (none, s)⟩
    let ch : Channel Nat :=
      ⟨fun _ t => (true, t), fun _ t => (.untracked, t), fun _ _ t => (true, t),
        fun _ _ t => (t % 2 = 1, t + 1)⟩
    let us : List Update :=
      [⟨1, some ⟨7, some "/status"⟩⟩, ⟨2, none⟩, ⟨3, some ⟨42, some "/nothing"⟩⟩,
        ⟨4, some ⟨42, some "/list"⟩⟩, ⟨5, some ⟨42, some "/logs@port_bot web"⟩⟩]
    let p := (⟨0, ⟨(), 0, [], []⟩⟩ : Polling Unit Nat).take src ch 42 (some us)
    p.conversation.queries = [.snapshot, .logs "web" 7 120] ∧
      p.conversation.calls =
        [.sendTo 42 Reply.noTargets false, .sendTo 42 Reply.notFound true] := by
  decide +kernel

end Uptime
