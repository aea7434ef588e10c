import Uptime.Alert.Consolidation

/-!
# Conversations with a channel

The calls of a batch are recorded with their answers. This file shows that the record is true:
every answer is the one that the channel gives in the state in which the calls before have
left it. So a statement about recorded answers is one about every sequence of outcomes.

## Main definitions

* `Channel.Conversation`: some calls, with these answers, lead from one state to another.

## Main results

* `deliver_conversation`: the calls of a batch are a conversation.
-/

namespace Uptime

variable {σ : Type}

namespace Channel

/-- The channel answers a call as recorded and goes from the state `s` to the state `t`. -/
def Answers (ch : Channel σ) (s : σ) : Call → σ → Prop
  | .send text ok, t => ch.send text s = (ok, t)
  | .sendTracked text receipt, t => ch.sendTracked text s = (receipt, t)
  | .edit id text ok, t => ch.edit id text s = (ok, t)
  | .sendTo chat text ok, t => ch.sendTo chat text s = (ok, t)

/-- Some calls, made one after the other from the state `s` on, have the recorded answers and
lead to the state `t`. -/
def Conversation (ch : Channel σ) : σ → List Call → σ → Prop
  | s, [], t => s = t
  | s, call :: calls, t => ∃ u, ch.Answers s call u ∧ Conversation ch u calls t

theorem conversation_append {ch : Channel σ} : ∀ {calls : List Call} {s t u : σ} {call : Call},
    ch.Conversation s calls t → ch.Answers t call u → ch.Conversation s (calls ++ [call]) u := by
  intro calls
  induction calls with
  | nil =>
    intro s t u call h hcall
    obtain rfl : s = t := h
    exact ⟨u, hcall, rfl⟩
  | cons first calls ih =>
    intro s t u call h hcall
    obtain ⟨v, hfirst, hrest⟩ := h
    exact ⟨v, hfirst, ih hrest hcall⟩

end Channel

namespace Consolidation

/-- The notices so far are a conversation that began in the state `s`. -/
def Faithful (ch : Channel σ) (s : σ) (c : Consolidation σ) : Prop :=
  ch.Conversation s (c.notices.map Notice.call) c.channel

variable {ch : Channel σ} {s : σ} {window : Span} {c : Consolidation σ}

/-- Noting an answer of the channel keeps the record true. -/
theorem Faithful.note {d : Consolidation σ} (h : c.Faithful ch s) (call : Call)
    {events : List Event} (hcall : ch.Answers c.channel call d.channel)
    (hnotices : d.notices = c.notices ++ [⟨call, events⟩]) : d.Faithful ch s := by
  rw [Faithful, hnotices, List.map_append]
  exact Channel.conversation_append h hcall

theorem Faithful.resolve (h : c.Faithful ch s) (e : Event) :
    (c.resolve ch window e).Faithful ch s := by
  rw [Consolidation.resolve]
  split
  · split
    · exact h
    · next q _ =>
      split
      · dsimp only
        split
        · exact h.note (.edit q.messageId (Alert.recoveredText e q) _) rfl rfl
        · exact h.note (.edit q.messageId (Alert.recoveredText e q) _) rfl rfl
      · exact h
  · exact h

theorem Faithful.resolveGroup (h : c.Faithful ch s) :
    (c.resolveGroup ch window).Faithful ch s := by
  rw [Consolidation.resolveGroup]
  split
  · exact h
  · split
    · exact h
    · split
      · exact h
      · next g _ =>
        dsimp only
        split
        · exact h.note (.edit g.messageId (Alert.groupRecoveredText g c.leftover) _) rfl rfl
        · exact h.note (.edit g.messageId (Alert.groupRecoveredText g c.leftover) _) rfl rfl

theorem Faithful.announce (h : c.Faithful ch s) (category : Category) :
    (c.announce ch window category).Faithful ch s := by
  rw [Consolidation.announce]
  split
  · exact h
  · next e es _ =>
    dsimp only
    split
    · exact h.note (.sendTracked (Alert.groupText (e :: es)) _) rfl rfl
    · exact h.note (.send (Alert.groupText (e :: es)) _) rfl rfl

end Consolidation

/-- **The calls of a batch are a conversation with the channel.** -/
theorem deliver_conversation (ch : Channel σ) (window : Span) (s : σ) (p : Pending)
    (events : List Event) :
    ch.Conversation s ((deliver ch window s p events).notices.map Notice.call)
      (deliver ch window s p events).channel := by
  have hresolved : (events.foldl (Consolidation.resolve ch window)
      { channel := s, pending := p }).Faithful ch s :=
    List.foldlRecOn events _ rfl fun _ h e _ => h.resolve e
  exact List.foldlRecOn (motive := Consolidation.Faithful ch s) Category.all _
    hresolved.resolveGroup fun _ h category _ => h.announce category

end Uptime
