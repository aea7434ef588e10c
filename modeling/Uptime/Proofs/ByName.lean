import Mathlib.Data.List.Forall2
import Uptime.Chat.Handler
import Uptime.Monitor
import Uptime.Proofs.Entries

/-!
# Asking for a target by its name

The check log of a target is asked for with a command and one word. So a target whose name is one
word can be asked for by its name. A name may have blanks inside, and then the question is about
the target that has the first word of it as its name, if there is one.

## Main definitions

* `Monitor.source`: what can be asked of a monitor.
* `firstWord`: the first word of a name.

## Main results

* `Command.ofText?_logs`: how a command with a name is read.
* `notFound_mem_logReplies_iff`: when a target is said not to be found.
* `Conversation.handle_logs_name`: what is asked and answered.
-/

namespace Uptime

open Text

/-- What can be asked of a monitor, which is not changed by it. -/
def Monitor.source (ceiling : Nat) (now : Instant) (readingSucceeds : Bool) : Source Monitor where
  snapshot m := (m.registry.snapshot now, m)
  logs target days limit m := (m.logs ceiling now target days limit readingSucceeds, m)

/-! ### Reading the command -/

/-- The first word of a name. -/
def firstWord (name : String) : String := String.ofList (name.toList.takeWhile (!isBlank ·))

section

variable {name : String}

theorem firstWord_eq_self_iff : firstWord name = name ↔ name.toList.any isBlank = false := by
  rw [← String.toList_inj, firstWord, String.toList_ofList, List.takeWhile_eq_self_iff]
  simp

/-- **How a command with a name is read.** -/
theorem Command.ofText?_logs (h : checkName name = .ok name) :
    Command.ofText? ("/logs " ++ name) = some ⟨"logs", some (firstWord name)⟩ := by
  obtain ⟨⟨hempty, -⟩, htrim⟩ := checkName_eq_ok_iff.mp h
  obtain ⟨hhead, hlast⟩ := trim_eq_self_iff.mp htrim.symm
  have hne : name.toList ≠ [] := by
    rw [← htrim] at hempty
    simpa using hempty
  have htext : ("/logs " ++ name).toList = ['/', 'l', 'o', 'g', 's'] ++ ' ' :: name.toList := by
    simp
  -- neither the slash nor the end of the name is trimmed off
  have hraw : trimChars isBlank ("/logs " ++ name).toList = ("/logs " ++ name).toList := by
    refine trimChars_eq_self_iff.mpr ⟨?_, ?_⟩
    · intro c hc
      rw [htext] at hc
      exact Option.some.inj hc ▸ rfl
    · rw [String.toList_append, List.getLast?_append_of_ne_nil _ hne]
      exact hlast
  have hwords : wordsOf ("/logs " ++ name).toList =
      ['/', 'l', 'o', 'g', 's'] :: name.toList.takeWhile (!isBlank ·) ::
        wordsOf (name.toList.dropWhile (!isBlank ·)) := by
    rw [htext, wordsOf_append_cons (by decide) (by decide) (by decide), wordsOf_of_head? hne hhead]
  have hlower : lower (String.ofList ['l', 'o', 'g', 's']) = "logs" := by decide
  have hslash : ("/logs " ++ name).toList.head? = some '/' := by
    rw [htext]
    rfl
  have hcommand : commandWord ['/', 'l', 'o', 'g', 's'] = ['l', 'o', 'g', 's'] := by decide
  simp only [Command.ofText?, hraw, hslash, if_true, hwords, hcommand, hlower]
  rfl

/-- So it asks for the check log of the target with the first word as its name. -/
theorem Request.ofMessage?_logs (h : checkName name = .ok name) (chat : ChatId) :
    Request.ofMessage? chat chat ("/logs " ++ name) = some (.logs (firstWord name)) := by
  rw [ofMessage?, if_pos rfl, Command.ofText?_logs h]
  rfl

/-! ### Answers -/

/-- Messages begin with their header. -/
theorem LogReply.exists_of_mem_render {header message : String} {rows : List Row}
    (h : message ∈ render header rows) : ∃ rest, message = header ++ rest := by
  rw [render] at h
  split at h
  · rw [List.mem_singleton.mp h]
    exact ⟨_, String.append_assoc⟩
  · obtain ⟨p, -, rfl⟩ := List.mem_map.mp h
    simp only [message, String.append_assoc]
    exact ⟨_, rfl⟩

/-- **When a target is said not to be found.** -/
theorem notFound_mem_logReplies_iff {target : String} {rows : Option (List Row)} :
    Reply.notFound ∈ logReplies target rows ↔ rows = none := by
  match rows with
  | none => simp [logReplies]
  | some [] => simp [logReplies, Reply.notFound, Reply.noRows]
  | some (r :: rows) =>
    refine iff_of_false (fun hmem => ?_) (by simp)
    obtain ⟨rest, heq⟩ := LogReply.exists_of_mem_render hmem
    rw [← String.toList_inj] at heq
    simp [Reply.notFound, LogReply.header] at heq

/-- The replies are sent in order, whether or not they arrive. -/
theorem Conversation.exists_calls_replyAll {σ τ : Type} (ch : Channel τ) (chat : ChatId)
    (texts : List String) (c : Conversation σ τ) :
    (c.replyAll ch chat texts).queries = c.queries ∧
      ∃ sent, (c.replyAll ch chat texts).calls = c.calls ++ sent ∧
        List.Forall₂ (fun text call => ∃ ok, call = .sendTo chat text ok) texts sent := by
  induction texts generalizing c with
  | nil => exact ⟨rfl, [], (List.append_nil _).symm, .nil⟩
  | cons text texts ih =>
    obtain ⟨hqueries, sent, hcalls, hsent⟩ := ih (c.reply ch chat text)
    refine ⟨hqueries, .sendTo chat text (ch.sendTo chat text c.channel).1 :: sent, ?_,
      .cons ⟨_, rfl⟩ hsent⟩
    have hstep : c.replyAll ch chat (text :: texts) = (c.reply ch chat text).replyAll ch chat texts :=
      rfl
    rw [hstep, hcalls, Conversation.reply, List.append_assoc, List.singleton_append]

theorem Monitor.logs_eq_none_iff {m : Monitor} {ceiling days limit : Nat} {now : Instant}
    {target : String} {readingSucceeds : Bool} :
    m.logs ceiling now target days limit readingSucceeds = none ↔ m.registry.get? target = none := by
  simp [Monitor.logs, Monitor.logQuery?]

/-- One question is asked, and its answer is sent. -/
theorem Conversation.handle_logs_eq {τ : Type} (ch : Channel τ) (allowed : ChatId) (ceiling : Nat)
    (now : Instant) (readingSucceeds : Bool) (c : Conversation Monitor τ)
    (hname : checkName name = .ok name) :
    c.handle (Monitor.source ceiling now readingSucceeds) ch allowed allowed ("/logs " ++ name) =
      replyAll ch allowed { c with queries := c.queries ++ [.logs (firstWord name) 7 120] }
        (logReplies (firstWord name)
          (c.source.logs ceiling now (firstWord name) 7 120 readingSucceeds)) := by
  simp only [handle, Request.ofMessage?_logs hname]
  rfl

/-- **What is asked and answered** if the check log of a registered target is asked for by its name:
one question, about the target that has the first word as its name. That is the target itself if
its name has no blank inside, and then it is found. Otherwise it depends on whether there is a target
of that name. -/
theorem Conversation.handle_logs_name {τ : Type} (ch : Channel τ) (allowed : ChatId) (ceiling : Nat)
    (now : Instant) (readingSucceeds : Bool) (c : Conversation Monitor τ)
    (hname : checkName name = .ok name) (hregistered : c.source.registry.get? name ≠ none) :
    let c' := c.handle (Monitor.source ceiling now readingSucceeds) ch allowed allowed
      ("/logs " ++ name)
    let replies := logReplies (firstWord name)
      (c.source.logs ceiling now (firstWord name) 7 120 readingSucceeds)
    c'.queries = c.queries ++ [.logs (firstWord name) 7 120] ∧
      (∃ sent, c'.calls = c.calls ++ sent ∧
        List.Forall₂ (fun text call => ∃ ok, call = .sendTo allowed text ok) replies sent) ∧
      (firstWord name = name ↔ name.toList.any isBlank = false) ∧
      (name.toList.any isBlank = false → Reply.notFound ∉ replies) ∧
      (Reply.notFound ∈ replies ↔ c.source.registry.get? (firstWord name) = none) := by
  intro c' replies
  have hfound : Reply.notFound ∈ replies ↔ c.source.registry.get? (firstWord name) = none :=
    notFound_mem_logReplies_iff.trans Monitor.logs_eq_none_iff
  obtain ⟨hqueries, sent, hcalls, hsent⟩ := exists_calls_replyAll ch allowed replies
    { c with queries := c.queries ++ [.logs (firstWord name) 7 120] }
  have hhandle : c' = replyAll ch allowed
      { c with queries := c.queries ++ [.logs (firstWord name) 7 120] } replies :=
    handle_logs_eq ch allowed ceiling now readingSucceeds c hname
  rw [← hhandle] at hqueries hcalls
  refine ⟨hqueries, ⟨sent, hcalls, hsent⟩, firstWord_eq_self_iff, fun hblank => ?_, hfound⟩
  rw [hfound, firstWord_eq_self_iff.mpr hblank]
  exact hregistered

end

/-- A monitor that watches two targets, one of them under a name of two words. -/
def twoWatched : Monitor :=
  { registry := ({} : Registry).replace [⟨"web", "h", 80, true⟩, ⟨"db server", "h", 81, true⟩] }

/-- A channel on which everything arrives. -/
def reliable : Channel Unit where
  send _ _ := (true, ())
  sendTracked _ _ := (.untracked, ())
  edit _ _ _ := (true, ())
  sendTo _ _ _ := (true, ())

/-- A target with a name of one word is asked for by its name. -/
theorem Conversation.handle_logs_name_web :
    let c : Conversation Monitor Unit := ⟨twoWatched, (), [], []⟩
    let c' := c.handle (Monitor.source 120 ⟨0⟩ true) reliable 42 42 ("/logs " ++ "web")
    checkName "web" = .ok "web" ∧ twoWatched.registry.get? "web" ≠ none ∧
      c'.queries = [.logs "web" 7 120] ∧
      Reply.notFound ∉ logReplies "web" (twoWatched.logs 120 ⟨0⟩ "web" 7 120 true) := by
  intro c c'
  have hname : checkName "web" = .ok "web" := by decide
  have hregistered : c.source.registry.get? "web" ≠ none := by decide +kernel
  have hword : firstWord "web" = "web" := by decide
  obtain ⟨hqueries, -, -, hfound, -⟩ :=
    handle_logs_name reliable 42 120 ⟨0⟩ true c hname hregistered
  rw [hword] at hqueries hfound
  exact ⟨hname, hregistered, hqueries, hfound (by decide)⟩

/-- A target with a name of two words is not: the question is about the first word, and the answer is
that there is no such target. -/
theorem not_asked_by_name :
    let c : Conversation Monitor Unit := ⟨twoWatched, (), [], []⟩
    let c' := c.handle (Monitor.source 120 ⟨0⟩ true) reliable 42 42 ("/logs " ++ "db server")
    checkName "db server" = .ok "db server" ∧ twoWatched.registry.get? "db server" ≠ none ∧
      c'.queries = [.logs "db" 7 120] ∧ c'.queries ≠ [.logs "db server" 7 120] ∧
      c'.calls = [.sendTo 42 Reply.notFound true] := by
  intro c c'
  have hname : checkName "db server" = .ok "db server" := by decide
  have hregistered : twoWatched.registry.get? "db server" ≠ none := by decide +kernel
  have hword : firstWord "db server" = "db" := by decide
  have hreplies : logReplies "db" (twoWatched.logs 120 ⟨0⟩ "db" 7 120 true) = [Reply.notFound] := by
    decide +kernel
  have hhandle : c' = ⟨twoWatched, (), [.logs "db" 7 120], [.sendTo 42 Reply.notFound true]⟩ := by
    simp only [c', Conversation.handle_logs_eq reliable 42 120 ⟨0⟩ true c hname, hword, c, hreplies]
    rfl
  rw [hhandle]
  exact ⟨hname, hregistered, rfl, by decide, rfl⟩

end Uptime
