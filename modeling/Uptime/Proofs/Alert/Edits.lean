import Uptime.Alert.Consolidation
import Uptime.Proofs.Names

/-!
# The edits of a batch

A batch tells its recoveries by edits as far as it can: first each by the message about its
own target, then all that are left by the message about a group. Both passes are described here
by relations between the recoveries, the calls that are made and the recoveries that remain.

The first pass uses up the record of every recovery that it takes, whatever comes of it; so a
second recovery of the same target finds none. The descriptions allow for that and hold of
every batch.

## Main definitions

* `recordIn`: the record by which a recovery can be told on its own.
* `SingleEdits`: the pass over the messages about one target.
* `Pending.answering`: the group whose message can tell some recoveries.
* `GroupEdit`: the pass over the messages about groups.

## Main results

* `foldl_resolve`: the first pass is as described.
* `resolveGroup_eq`: so is the second.
* `SingleEdits.forall₂`, `SingleEdits.left_eq`: the first pass when all targets differ.
-/

namespace Uptime

variable {σ : Type}

/-- The recoveries among some events. -/
def recoveries (events : List Event) : List Event := events.filter fun e => e.category = .recovery

/-- The events that no edit can tell. -/
def others (events : List Event) : List Event := events.filter fun e => e.category ≠ .recovery

theorem mem_recoveries {events : List Event} {e : Event} :
    e ∈ recoveries events ↔ e ∈ events ∧ e.category = .recovery := by
  simp [recoveries]

theorem recoveries_cons_of_eq {e : Event} {events : List Event} (h : e.category = .recovery) :
    recoveries (e :: events) = e :: recoveries events := by
  simp [recoveries, h]

theorem recoveries_cons_of_ne {e : Event} {events : List Event} (h : e.category ≠ .recovery) :
    recoveries (e :: events) = recoveries events := by
  simp [recoveries, h]

theorem others_cons_of_eq {e : Event} {events : List Event} (h : e.category = .recovery) :
    others (e :: events) = others events := by
  simp [others, h]

theorem others_cons_of_ne {e : Event} {events : List Event} (h : e.category ≠ .recovery) :
    others (e :: events) = e :: others events := by
  simp [others, h]

/-- Every event is a recovery or not. -/
theorem perm_recoveries_append_others (events : List Event) :
    (recoveries events ++ others events).Perm events := by
  have h := List.filter_append_perm (fun e : Event => decide (e.category = .recovery)) events
  simpa [recoveries, others] using h

/-! ### Messages about one target -/

/-- The record by which a recovery can be told on its own: the one of its target, if the
recovery lies within the window after it. -/
def recordIn (m : NameMap PendingSingle) (window : Span) (e : Event) : Option PendingSingle :=
  (m.find? e.target).filter fun q => e.occurred - q.downAt ≤ window

/-- The map after the look-ups of some recoveries. -/
def consume (m : NameMap PendingSingle) (es : List Event) : NameMap PendingSingle :=
  es.foldl (fun m e => m.erase e.target) m

/-- The edit of the message about the target of a recovery. -/
def Notice.single (e : Event) (q : PendingSingle) (ok : Bool) : Notice :=
  ⟨.edit q.messageId (Alert.recoveredText e q) ok, [e]⟩

/-- `SingleEdits window m es ns left` says that the recoveries `es`, told by the records `m` as
far as possible, give rise to the calls `ns` and leave `left` untold. -/
inductive SingleEdits (window : Span) :
    NameMap PendingSingle → List Event → List Notice → List Event → Prop
  /-- No recoveries, no calls. -/
  | nil {m} : SingleEdits window m [] [] []
  /-- No record can tell the first one. -/
  | missed {m e es ns left} (hrecord : recordIn m window e = none)
      (rest : SingleEdits window (m.erase e.target) es ns left) :
      SingleEdits window m (e :: es) ns (e :: left)
  /-- A record can, and it is told if the edit succeeds. -/
  | edited {m e es ns left q} (ok : Bool) (hrecord : recordIn m window e = some q)
      (rest : SingleEdits window (m.erase e.target) es ns left) :
      SingleEdits window m (e :: es) (.single e q ok :: ns) (if ok then left else e :: left)

namespace Consolidation

variable {window : Span} {c : Consolidation σ} {e : Event}

theorem resolve_of_ne {ch : Channel σ} (h : e.category ≠ .recovery) :
    c.resolve ch window e = { c with remaining := c.remaining ++ [e] } := by
  rw [resolve, if_neg h]

theorem resolve_of_none {ch : Channel σ} (h : e.category = .recovery)
    (hrecord : recordIn c.pending.singles window e = none) :
    c.resolve ch window e =
      { c with
        pending.singles := c.pending.singles.erase e.target
        leftover := c.leftover ++ [e] } := by
  rw [resolve, if_pos h]
  split
  · next hfind =>
    rw [NameMap.erase_of_find?_eq_none hfind]
    rfl
  · next q hfind =>
    have hlate : ¬ e.occurred - q.downAt ≤ window := by
      simpa [recordIn, hfind] using hrecord
    dsimp only
    rw [if_neg hlate]
    rfl

theorem resolve_of_some (ch : Channel σ) (h : e.category = .recovery) {q : PendingSingle}
    (hrecord : recordIn c.pending.singles window e = some q) :
    ∃ ok t, c.resolve ch window e =
      { c with
        channel := t
        pending.singles := c.pending.singles.erase e.target
        notices := c.notices ++ [.single e q ok]
        leftover := c.leftover ++ if ok then [] else [e] } := by
  obtain ⟨hfind, hin⟩ := Option.filter_eq_some_iff.mp hrecord
  have hin : e.occurred - q.downAt ≤ window := by simpa using hin
  refine ⟨(ch.edit q.messageId (Alert.recoveredText e q) c.channel).1,
    (ch.edit q.messageId (Alert.recoveredText e q) c.channel).2, ?_⟩
  rw [resolve, if_pos h, hfind]
  dsimp only
  rw [if_pos hin]
  cases (ch.edit q.messageId (Alert.recoveredText e q) c.channel).1 <;>
    simp [note, leave, Notice.single]

/-- **The pass over the messages about one target.** It makes the calls that its description
allows, uses up the records of all recoveries, and leaves the other events for new messages. -/
theorem foldl_resolve (ch : Channel σ) (window : Span) :
    ∀ (events : List Event) (c : Consolidation σ), ∃ ns left t,
      SingleEdits window c.pending.singles (recoveries events) ns left ∧
      events.foldl (resolve ch window) c =
        { channel := t
          pending := { c.pending with singles := consume c.pending.singles (recoveries events) }
          notices := c.notices ++ ns
          leftover := c.leftover ++ left
          remaining := c.remaining ++ others events } := by
  intro events
  induction events with
  | nil =>
    intro c
    exact ⟨[], [], c.channel, .nil, by simp [consume, recoveries, others]⟩
  | cons e events ih =>
    intro c
    obtain ⟨ns, left, t, hns, hfold⟩ := ih (c.resolve ch window e)
    rw [List.foldl_cons, hfold]
    by_cases hcategory : e.category = .recovery
    · rw [recoveries_cons_of_eq hcategory, others_cons_of_eq hcategory]
      -- told or not, the recovery uses up the record of its target
      cases hrecord : recordIn c.pending.singles window e with
      | none =>
        rw [resolve_of_none hcategory hrecord] at hns ⊢
        exact ⟨ns, e :: left, t, .missed hrecord hns, by simp [consume]⟩
      | some q =>
        obtain ⟨ok, u, hresolve⟩ := resolve_of_some ch hcategory hrecord
        rw [hresolve] at hns ⊢
        exact ⟨_, _, t, .edited ok hrecord hns, by cases ok <;> simp [consume]⟩
    · rw [recoveries_cons_of_ne hcategory, others_cons_of_ne hcategory]
      rw [resolve_of_ne hcategory] at hns ⊢
      exact ⟨ns, left, t, hns, by simp⟩

end Consolidation

/-! ### Recoveries of different targets -/

theorem recordIn_erase {m : NameMap PendingSingle} {window : Span} {key : String} {e : Event}
    (h : e.target ≠ key) : recordIn (m.erase key) window e = recordIn m window e := by
  rw [recordIn, NameMap.find?_erase, if_neg h, recordIn]

/-- What is found after a look-up was there before it. -/
theorem recordIn_of_recordIn_erase {m : NameMap PendingSingle} {window : Span} {key : String}
    {e : Event} {q : PendingSingle} (h : recordIn (m.erase key) window e = some q) :
    recordIn m window e = some q := by
  by_cases htarget : e.target = key
  · rw [recordIn, NameMap.find?_erase, if_pos htarget] at h
    cases h
  · rwa [recordIn_erase htarget] at h

/-- Every call of the pass edits the message about one of the recoveries. -/
theorem SingleEdits.exists_of_mem {window : Span} {m : NameMap PendingSingle} {es left : List Event}
    {ns : List Notice} (h : SingleEdits window m es ns left) :
    ∀ n ∈ ns, ∃ e ∈ es, ∃ q ok, recordIn m window e = some q ∧ n = .single e q ok := by
  induction h with
  | nil => intro n hn; simp at hn
  | missed _ _ ih =>
    intro n hn
    obtain ⟨e, he, q, ok, hrecord, rfl⟩ := ih n hn
    exact ⟨e, List.mem_cons_of_mem _ he, q, ok, recordIn_of_recordIn_erase hrecord, rfl⟩
  | @edited m e es ns left q ok hrecord _ ih =>
    intro n hn
    rcases List.mem_cons.mp hn with rfl | hn
    · exact ⟨e, List.mem_cons_self, q, ok, hrecord, rfl⟩
    · obtain ⟨e', he', q', ok', hrecord', rfl⟩ := ih n hn
      exact ⟨e', List.mem_cons_of_mem _ he', q', ok', recordIn_of_recordIn_erase hrecord', rfl⟩

/-- Recoveries of other targets find the records that were there at the beginning. -/
private theorem filterMap_recordIn_erase {m : NameMap PendingSingle} {window : Span} {key : String}
    {es : List Event} (h : key ∉ es.map Event.target) :
    (es.filterMap fun e => (recordIn (m.erase key) window e).map (e, ·)) =
      es.filterMap fun e => (recordIn m window e).map (e, ·) := by
  refine List.filterMap_congr fun e he => ?_
  rw [recordIn_erase]
  rintro rfl
  exact h (List.mem_map_of_mem he)

/-- **If all targets differ, the calls are one edit for each recovery that a record can
tell**, in the order of the recoveries. -/
theorem SingleEdits.forall₂ {window : Span} {m : NameMap PendingSingle} {es left : List Event}
    {ns : List Notice} (h : SingleEdits window m es ns left) :
    (es.map Event.target).Nodup →
      List.Forall₂ (fun told n => ∃ ok, n = Notice.single told.1 told.2 ok)
        (es.filterMap fun e => (recordIn m window e).map (e, ·)) ns := by
  induction h with
  | nil => intro _; exact .nil
  | @missed m e es ns left hrecord _ ih =>
    intro hd
    rw [List.map_cons, List.nodup_cons] at hd
    rw [List.filterMap_cons, hrecord, ← filterMap_recordIn_erase hd.1]
    exact ih hd.2
  | @edited m e es ns left q ok hrecord _ ih =>
    intro hd
    rw [List.map_cons, List.nodup_cons] at hd
    rw [List.filterMap_cons, hrecord, ← filterMap_recordIn_erase hd.1]
    exact .cons ⟨ok, rfl⟩ (ih hd.2)

/-- The recoveries about which no edit on their own has succeeded. -/
def untold (es : List Event) (ns : List Notice) : List Event :=
  es.filter fun e => ∀ n ∈ ns, n.events = [e] → n.call.succeeded = false

/-- **If all targets differ, a recovery is left unless an edit about it has succeeded.** -/
theorem SingleEdits.left_eq {window : Span} {m : NameMap PendingSingle} {es left : List Event}
    {ns : List Notice} (h : SingleEdits window m es ns left) :
    (es.map Event.target).Nodup → left = untold es ns := by
  induction h with
  | nil => intro _; rfl
  | @missed m e es ns left _ rest ih =>
    intro hd
    rw [List.map_cons, List.nodup_cons] at hd
    -- no call is about a recovery whose target the others do not have
    have hfree : ∀ n ∈ ns, n.events = [e] → n.call.succeeded = false := by
      intro n hn hevents
      obtain ⟨e', he', q, ok, -, rfl⟩ := rest.exists_of_mem n hn
      obtain rfl : e' = e := by simpa [Notice.single] using hevents
      exact absurd (List.mem_map_of_mem he') hd.1
    rw [untold, List.filter_cons_of_pos (by simpa using hfree), ← untold, ← ih hd.2]
  | @edited m e es ns left q ok _ rest ih =>
    intro hd
    rw [List.map_cons, List.nodup_cons] at hd
    have hhead : (∀ n ∈ Notice.single e q ok :: ns, n.events = [e] → n.call.succeeded = false) ↔
        ok = false := by
      constructor
      · intro hall
        exact hall _ List.mem_cons_self rfl
      · intro hok n hn hevents
        rcases List.mem_cons.mp hn with rfl | hn
        · exact hok
        · obtain ⟨e', he', q', ok', -, rfl⟩ := rest.exists_of_mem n hn
          obtain rfl : e' = e := by simpa [Notice.single] using hevents
          exact absurd (List.mem_map_of_mem he') hd.1
    have htail : left = es.filter fun e' =>
        ∀ n ∈ Notice.single e q ok :: ns, n.events = [e'] → n.call.succeeded = false := by
      rw [ih hd.2, untold]
      refine List.filter_congr fun e' he' => ?_
      have hne : e ≠ e' := by
        rintro rfl
        exact hd.1 (List.mem_map_of_mem he')
      simp [Notice.single, hne]
    rw [untold, List.filter_cons, ← htail]
    simp only [hhead]
    cases ok <;> rfl

/-! ### Messages about groups -/

/-- The group whose message can tell some recoveries: the oldest one that they answer. -/
def Pending.answering (p : Pending) (window : Span) (es : List Event) : Option PendingGroup :=
  if es = [] then none else p.groups.find? fun g => g.Answers es window

/-- It is the first one that they answer. -/
theorem Pending.of_answering_eq_some {p : Pending} {window : Span} {es : List Event}
    {g : PendingGroup} (h : p.answering window es = some g) :
    es ≠ [] ∧ g.Answers es window ∧ ∃ before after, p.groups = before ++ g :: after ∧
      ∀ g' ∈ before, ¬ g'.Answers es window := by
  rw [answering] at h
  split at h
  · cases h
  · next hne => exact ⟨hne, by simpa using List.find?_eq_some_iff_append.mp h⟩

/-- The groups after some recoveries have been told, or not: the one that they answer is used
up. -/
def Pending.unanswered (p : Pending) (window : Span) (es : List Event) : List PendingGroup :=
  if es = [] then p.groups else p.groups.eraseP fun g => g.Answers es window

theorem Pending.unanswered_sublist (p : Pending) (window : Span) (es : List Event) :
    (p.unanswered window es).Sublist p.groups := by
  rw [unanswered]
  split
  · exact .refl _
  · exact List.eraseP_sublist

/-- The edit of the message about a group. -/
def Notice.group (es : List Event) (g : PendingGroup) (ok : Bool) : Notice :=
  ⟨.edit g.messageId (Alert.groupRecoveredText g es) ok, es⟩

/-- `GroupEdit g? es ns left` says that the recoveries `es`, told by the message about the
group `g?` if there is one, give rise to the calls `ns` and leave `left` untold. -/
inductive GroupEdit : Option PendingGroup → List Event → List Notice → List Event → Prop
  /-- No group can tell them. -/
  | missed {es} : GroupEdit none es [] es
  /-- A group can, and all are told if the edit succeeds. -/
  | edited {g es} (ok : Bool) : GroupEdit (some g) es [.group es g ok] (if ok then [] else es)

private theorem find?_eq_getElem?_of_findIdx? {α : Type} {p : α → Bool} {xs : List α} {i : Nat}
    (h : xs.findIdx? p = some i) : xs[i]? = xs.find? p ∧ xs.eraseIdx i = xs.eraseP p := by
  obtain ⟨hi, hp, hbefore⟩ := List.findIdx?_eq_some_iff_getElem.mp h
  have hidx : xs.findIdx p = i := (List.findIdx?_eq_some_iff_findIdx_eq.mp h).2
  refine ⟨?_, ?_⟩
  · rw [List.find?_eq_some_iff_getElem.mpr ⟨hp, i, hi, rfl, fun j hj => by simpa using hbefore j hj⟩]
    exact List.getElem?_eq_getElem hi
  · rw [List.eraseP_eq_eraseIdx, h]

/-- **The pass over the messages about groups.** -/
theorem Consolidation.resolveGroup_eq (ch : Channel σ) (window : Span) (c : Consolidation σ) :
    ∃ ns left t, GroupEdit (c.pending.answering window c.leftover) c.leftover ns left ∧
      c.resolveGroup ch window =
        { channel := t
          pending := { c.pending with groups := c.pending.unanswered window c.leftover }
          notices := c.notices ++ ns
          leftover := []
          remaining := c.remaining ++ left } := by
  rw [resolveGroup, Pending.answering, Pending.unanswered]
  by_cases hnil : c.leftover = []
  · -- nothing is left over, and no group is looked for
    rw [if_pos hnil, if_pos hnil, if_pos hnil, hnil]
    refine ⟨[], [], c.channel, .missed, ?_⟩
    obtain ⟨channel, pending, notices, leftover, remaining⟩ := c
    obtain rfl : leftover = [] := hnil
    simp
  · rw [if_neg hnil, if_neg hnil, if_neg hnil]
    cases hidx : c.pending.groups.findIdx? fun g => g.Answers c.leftover window with
    | none =>
      have hnone : ∀ g ∈ c.pending.groups, ¬ g.Answers c.leftover window := by
        simpa using List.findIdx?_eq_none_iff.mp hidx
      rw [List.find?_eq_none.mpr (by simpa using hnone),
        List.eraseP_of_forall_not (by simpa using hnone)]
      exact ⟨[], c.leftover, c.channel, .missed, by simp⟩
    | some i =>
      -- the code finds a place and looks there; the description speaks of the group itself
      obtain ⟨hget, herase⟩ := find?_eq_getElem?_of_findIdx? hidx
      have hi : i < c.pending.groups.length := (List.findIdx?_eq_some_iff_getElem.mp hidx).1
      rw [← hget, ← herase, List.getElem?_eq_getElem hi]
      cases hedit : ch.edit c.pending.groups[i].messageId
          (Alert.groupRecoveredText c.pending.groups[i] c.leftover) c.channel with
      | mk ok t =>
        refine ⟨_, _, t, .edited ok, ?_⟩
        simp only [List.getElem?_eq_getElem hi, hedit]
        cases ok <;> simp [note, Notice.group]

end Uptime
