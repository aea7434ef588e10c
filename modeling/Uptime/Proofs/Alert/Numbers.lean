import Mathlib.Algebra.Order.Group.Multiset
import Mathlib.Data.List.Induction
import Uptime.Proofs.Alert.Origin

/-!
# The numbers of messages

A number that the channel gives to a message is held by the record of that message until an edit
spends it or the record is forgotten. Nothing that a batch does copies a number. So however often
the channel gives a number, it is held and spent no more often; and if it gives each number
once, no message is edited twice.

The numbers are counted by multisets, since batches may name a target twice, and the channel may
repeat a number.

## Main definitions

* `numbersIssued`, `numbersEdited`, `Pending.numbers`: the numbers that are given to messages, spent
  by edits, and held by records.
* `EditedOnce`: no message is edited twice, and every edit is about outages that it told.

## Main results

* `numbers_deliver_le`: a batch does not copy numbers.
* `Desk.numbers_run_le`: numbers are held and spent no more often than they are given.
* `editedOnce_run`: no message of a run is edited twice.
-/

namespace Uptime

variable {σ : Type}

/-- The number that a call is given for its message. -/
def Call.issued? : Call → Option MessageId
  | sendTracked _ receipt => receipt.id?
  | _ => none

/-- The number of the message that a call edits. -/
def Call.edited? : Call → Option MessageId
  | edit id _ _ => some id
  | _ => none

/-- The numbers that are given to messages. -/
def numbersIssued (ns : List Notice) : Multiset MessageId :=
  (ns.filterMap fun n => n.call.issued? : List MessageId)

/-- The numbers of the messages that are edited, whether or not the edits succeed. -/
def numbersEdited (ns : List Notice) : Multiset MessageId :=
  (ns.filterMap fun n => n.call.edited? : List MessageId)

/-- The numbers that are held by records. -/
def Pending.numbers (p : Pending) : Multiset MessageId :=
  (p.records.map PendingRecord.messageId : List MessageId)

theorem Call.edited?_eq_none {call : Call} (h : call.isEdit = false) : call.edited? = none := by
  cases call with
  | edit => cases h
  | send | sendTracked | sendTo => rfl

theorem numbersIssued_append (ns more : List Notice) :
    numbersIssued (ns ++ more) = numbersIssued ns + numbersIssued more := by
  simp [numbersIssued]

theorem numbersEdited_append (ns more : List Notice) :
    numbersEdited (ns ++ more) = numbersEdited ns + numbersEdited more := by
  simp [numbersEdited]

/-- Only a call that asks for a number is given one. -/
theorem numbersIssued_filter_isTracked (ns : List Notice) :
    numbersIssued (ns.filter fun n => n.call.isTracked) = numbersIssued ns := by
  rw [numbersIssued, numbersIssued, List.filterMap_filter]
  congr 2
  funext n
  cases n.call <;> rfl

/-- New messages edit nothing. -/
theorem numbersEdited_eq_zero {ns : List Notice} (h : ∀ n ∈ ns, n.call.isEdit = false) :
    numbersEdited ns = 0 := by
  rw [numbersEdited, List.filterMap_eq_nil_iff.mpr fun n hn => Call.edited?_eq_none (h n hn)]
  rfl

namespace NameMap

/-- The numbers of the messages about single targets. -/
def numbers (m : NameMap PendingSingle) : Multiset MessageId :=
  (m.map fun entry => entry.2.messageId : List MessageId)

theorem numbers_le_of_sublist {m m' : NameMap PendingSingle} (h : m.Sublist m') :
    m.numbers ≤ m'.numbers :=
  Multiset.coe_le.mpr (h.map _).subperm

/-- A record that is found gives its number away when it is taken out. -/
theorem cons_numbers_erase_le {m : NameMap PendingSingle} {name : String} {q : PendingSingle}
    (h : m.find? name = some q) : q.messageId ::ₘ (m.erase name).numbers ≤ m.numbers := by
  have hsubperm : ((name, q) :: m.erase name).Subperm m :=
    List.cons_subperm_of_not_mem_of_mem (fun hmem => (mem_erase.mp hmem).2 rfl) (mem_of_find? h)
      List.filter_sublist.subperm
  obtain ⟨entries, hperm, hsub⟩ := hsubperm
  have hle := numbers_le_of_sublist hsub
  rwa [numbers, Multiset.coe_eq_coe.mpr (hperm.map _)] at hle

end NameMap

/-- The numbers of the messages about groups. -/
def groupNumbers (gs : List PendingGroup) : Multiset MessageId :=
  (gs.map PendingGroup.messageId : List MessageId)

theorem groupNumbers_append (gs more : List PendingGroup) :
    groupNumbers (gs ++ more) = groupNumbers gs + groupNumbers more := by
  simp [groupNumbers]

theorem groupNumbers_le_of_sublist {gs gs' : List PendingGroup} (h : gs.Sublist gs') :
    groupNumbers gs ≤ groupNumbers gs' :=
  Multiset.coe_le.mpr (h.map _).subperm

theorem Pending.numbers_eq (p : Pending) :
    p.numbers = p.singles.numbers + groupNumbers p.groups := by
  rw [numbers, records, List.map_append, List.map_map, List.map_map, ← Multiset.coe_add]
  rfl

/-! ### What edits do to the numbers -/

section Edits

variable {window : Span} {es left : List Event} {ns : List Notice}

/-- The edits about single targets spend numbers that are held. -/
theorem SingleEdits.numbers_le {m : NameMap PendingSingle} (h : SingleEdits window m es ns left) :
    (consume m es).numbers + numbersEdited ns ≤ m.numbers := by
  induction h with
  | nil => simp [consume, numbersEdited]
  | missed _ _ ih => exact ih.trans (NameMap.numbers_le_of_sublist List.filter_sublist)
  | @edited m e es ns left q ok hrecord _ ih =>
    have hfind := (Option.filter_eq_some_iff.mp hrecord).1
    have hspent : numbersEdited (.single e q ok :: ns) = q.messageId ::ₘ numbersEdited ns := by
      simp [numbersEdited, Notice.single, Call.edited?]
    rw [hspent, Multiset.add_cons]
    exact (Multiset.cons_le_cons _ ih).trans (NameMap.cons_numbers_erase_le hfind)

/-- The edit about a group spends the number of that group, which is forgotten. -/
theorem GroupEdit.numbers_le {p : Pending} (h : GroupEdit (p.answering window es) es ns left) :
    groupNumbers (p.unanswered window es) + numbersEdited ns ≤ groupNumbers p.groups := by
  generalize hg : p.answering window es = g? at h
  cases h with
  | missed =>
    rw [show numbersEdited [] = 0 from rfl, add_zero]
    exact groupNumbers_le_of_sublist (p.unanswered_sublist window es)
  | @edited g _ ok =>
    obtain ⟨hne, hanswers, before, after, hgroups, hbefore⟩ := Pending.of_answering_eq_some hg
    -- the group that is found is the one that is forgotten: both are the first that answers
    have herase : p.unanswered window es = before ++ after := by
      rw [Pending.unanswered, if_neg hne, hgroups,
        List.eraseP_append_right _ (by simpa using hbefore)]
      exact congrArg (before ++ ·) (List.eraseP_cons_of_pos (by simpa using hanswers))
    have hspent : numbersEdited [.group es g ok] = {g.messageId} := rfl
    have hgroupNumbers : groupNumbers (g :: after) = g.messageId ::ₘ groupNumbers after := rfl
    rw [herase, hgroups, hspent, groupNumbers_append, groupNumbers_append, hgroupNumbers,
      ← Multiset.singleton_add, add_assoc, add_comm (groupNumbers after)]

/-- The edits of a batch spend numbers that are held. -/
theorem Pending.numbers_edited_le {p : Pending} {events left rest : List Event}
    {singles grouped : List Notice}
    (hsingles : SingleEdits window p.singles (recoveries events) singles left)
    (hgrouped : GroupEdit (p.answering window left) left grouped rest) :
    (p.edited window events left).numbers + numbersEdited (singles ++ grouped) ≤ p.numbers := by
  rw [numbers_eq, numbers_eq, numbersEdited_append]
  calc (consume p.singles (recoveries events)).numbers + groupNumbers (p.unanswered window left) +
        (numbersEdited singles + numbersEdited grouped)
      = ((consume p.singles (recoveries events)).numbers + numbersEdited singles) +
        (groupNumbers (p.unanswered window left) + numbersEdited grouped) := add_add_add_comm ..
    _ ≤ p.singles.numbers + groupNumbers p.groups :=
        add_le_add hsingles.numbers_le hgrouped.numbers_le

end Edits

/-! ### What new messages do to the numbers -/

section Announced

variable {p : Pending} {window : Span} {receipt : Receipt} {outages : List Event}

/-- A message about outages is recorded under its own number. -/
theorem Pending.numbers_record_le (p : Pending) (id : MessageId) (outages : List Event) :
    (p.record id outages).numbers ≤ p.numbers + {id} := by
  match outages with
  | [] => exact Multiset.le_add_right _ _
  | [e] =>
    -- an older record of this target gives its number up
    have hsingles : (p.singles.insert e.target (.ofEvent id e)).numbers =
        {id} + (p.singles.erase e.target).numbers := rfl
    rw [numbers_eq, numbers_eq, record, hsingles, add_assoc, add_comm]
    exact add_le_add_left
      (add_le_add_left (NameMap.numbers_le_of_sublist List.filter_sublist) _) _
  | e :: e' :: es =>
    have hgroups : (p.record id (e :: e' :: es)).groups =
        p.groups ++ [⟨id, e.reason, e.occurred, eventsByTarget (e :: e' :: es)⟩] := rfl
    rw [numbers_eq, numbers_eq, hgroups, groupNumbers_append, add_assoc]
    exact le_refl _

theorem Pending.numbers_supersede_le (p : Pending) (outages : List Event) (now : Instant)
    (window : Span) : (p.supersede outages now window).numbers ≤ p.numbers := by
  rw [numbers_eq, numbers_eq]
  have hgroups := p.groups_supersede_sublist outages now window
  exact add_le_add_right (groupNumbers_le_of_sublist hgroups) _

/-- After the message about some outages no more numbers are held than before, but for its own. -/
theorem Pending.numbers_announced_le (p : Pending) (window : Span) (receipt : Receipt)
    (outages : List Event) :
    (p.announced window receipt outages).numbers ≤
      p.numbers + numbersIssued (outageNotices receipt outages) := by
  cases outages with
  | nil => exact Multiset.le_add_right _ _
  | cons e es =>
    have holder := p.numbers_supersede_le (e :: es) (Consolidation.lastOccurred e es) window
    cases receipt with
    | tracked id => exact (numbers_record_le _ id (e :: es)).trans (add_le_add_left holder _)
    | failed | untracked => exact holder.trans (Multiset.le_add_right _ _)

end Announced

/-- **A batch does not copy numbers.** What is held afterwards or has been spent was held before or
is newly given. -/
theorem numbers_deliver_le (ch : Channel σ) (window : Span) (s : σ) (p : Pending)
    (events : List Event) :
    (deliver ch window s p events).pending.numbers +
        numbersEdited (deliver ch window s p events).notices ≤
      p.numbers + numbersIssued (deliver ch window s p events).notices := by
  obtain ⟨singles, left, grouped, rest, receipt, nss, t, hsingles, hgrouped, hnss, heq⟩ :=
    deliver_eq ch window s p events
  have hissued : numbersIssued (singles ++ grouped ++ nss.flatten) =
      numbersIssued (outageNotices receipt (ofCategory events .outage)) := by
    rw [← numbersIssued_filter_isTracked, filter_isTracked_of_passes hsingles hgrouped hnss]
  have hspent : numbersEdited (singles ++ grouped ++ nss.flatten) =
      numbersEdited (singles ++ grouped) := by
    rw [numbersEdited_append, numbersEdited_eq_zero (isEdit_of_announcements hnss), add_zero]
  rw [heq]
  dsimp only
  rw [hissued, hspent]
  let edited := p.edited window events left
  calc (edited.announced window receipt (ofCategory events .outage)).numbers +
        numbersEdited (singles ++ grouped)
      ≤ edited.numbers + numbersIssued (outageNotices receipt (ofCategory events .outage)) +
        numbersEdited (singles ++ grouped) :=
        add_le_add_left (edited.numbers_announced_le window receipt _) _
    _ = edited.numbers + numbersEdited (singles ++ grouped) +
        numbersIssued (outageNotices receipt (ofCategory events .outage)) := add_right_comm ..
    _ ≤ p.numbers + numbersIssued (outageNotices receipt (ofCategory events .outage)) :=
        add_le_add_left (Pending.numbers_edited_le hsingles hgrouped) _

/-- **Numbers are held and spent no more often than they are given**, throughout a run. -/
theorem Desk.numbers_run_le (ch : Channel σ) (window : Span) (s : σ)
    (batches : List (List Event)) :
    (run ch window s batches).pending.numbers + numbersEdited (run ch window s batches).notices ≤
      numbersIssued (run ch window s batches).notices := by
  refine run_induction (P := fun d => d.pending.numbers + numbersEdited d.notices ≤
    numbersIssued d.notices) (le_refl _) fun d events _ h => ?_
  have hbatch := numbers_deliver_le ch window d.channel d.pending events
  rw [take, tell]
  dsimp only
  rw [numbersEdited_append, numbersIssued_append]
  generalize deliver ch window d.channel d.pending events = told at *
  calc told.pending.numbers + (numbersEdited d.notices + numbersEdited told.notices)
      = told.pending.numbers + numbersEdited told.notices + numbersEdited d.notices := by
        rw [add_assoc, add_comm (numbersEdited told.notices)]
    _ ≤ d.pending.numbers + numbersIssued told.notices + numbersEdited d.notices :=
        add_le_add_left hbatch _
    _ = d.pending.numbers + numbersEdited d.notices + numbersIssued told.notices :=
        add_right_comm ..
    _ ≤ numbersIssued d.notices + numbersIssued told.notices := add_le_add_left h _

/-! ### Edits and the messages that they edit -/

/-- Every edit of a batch is about recoveries that a record names, and edits the message of that
record. -/
theorem exists_record_of_edited {ch : Channel σ} {window : Span} {s : σ} {p : Pending}
    {events : List Event} {n : Notice} {id : MessageId}
    (hn : n ∈ (deliver ch window s p events).notices) (hid : n.call.edited? = some id) :
    ∃ r ∈ p.records, r.messageId = id ∧
      ∀ e ∈ n.events, e.category = .recovery ∧ e.target ∈ r.names := by
  obtain ⟨singles, left, grouped, rest, receipt, nss, t, hsingles, hgrouped, hnss, heq⟩ :=
    deliver_eq ch window s p events
  rw [heq] at hn
  rcases List.mem_append.mp hn with hedits | hfresh
  · rcases List.mem_append.mp hedits with hsingle | hgroup
    · obtain ⟨e, he, q, ok, hrecord, rfl⟩ := hsingles.exists_of_mem n hsingle
      have hfind := (Option.filter_eq_some_iff.mp hrecord).1
      refine ⟨.single e.target q, mem_records_single.mpr (NameMap.mem_of_find? hfind),
        Option.some.inj hid, fun e' he' => ?_⟩
      obtain rfl := List.mem_singleton.mp he'
      exact ⟨(mem_recoveries.mp he).2, List.mem_cons_self⟩
    · generalize hg : p.answering window left = g? at hgrouped
      cases hgrouped with
      | missed => cases hgroup
      | @edited g _ ok =>
        obtain rfl := List.mem_singleton.mp hgroup
        obtain ⟨-, hanswers, before, after, hgroups, -⟩ := Pending.of_answering_eq_some hg
        refine ⟨.group g, mem_records_group.mpr (by rw [hgroups]; simp), Option.some.inj hid,
          fun e he => ⟨?_, ?_⟩⟩
        · exact (mem_recoveries.mp (hsingles.sublist.subset he)).2
        · exact NameMap.contains_iff.mp (hanswers.2 e he).1
  · rw [Call.edited?_eq_none (isEdit_of_announcements hnss n hfresh)] at hid
    cases hid

/-- The message of a record has been sent. -/
theorem PendingRecord.IsOrigin.exists_mem {r : PendingRecord} {notices : List Notice} {i : Nat}
    (h : r.IsOrigin notices i) :
    ∃ m ∈ notices, m.Leaves r ∧ ∀ o ∈ m.events, o.category = .outage := by
  obtain ⟨m, after, hdrop, hleaves, houtages, -⟩ := h
  refine ⟨m, List.mem_of_mem_drop (i := i) ?_, hleaves, houtages⟩
  rw [hdrop]
  exact List.mem_cons_self

/-- The call `n` tells recoveries of targets whose outages the call `m` has told, by a message with
the number `id`. -/
structure Notice.FollowsUp (n m : Notice) (id : MessageId) : Prop where
  call_eq : m.call = .sendTracked (Alert.groupText m.events) (.tracked id)
  outages : ∀ o ∈ m.events, o.category = .outage
  recoveries : ∀ e ∈ n.events, e.category = .recovery ∧ e.target ∈ m.events.map Event.target

/-- Every edit of one more batch follows up a message that was sent before the batch. -/
theorem Desk.exists_followsUp_tell (ch : Channel σ) (window : Span) (s : σ)
    (batches : List (List Event)) {events : List Event} {n : Notice} {id : MessageId}
    (hn : n ∈ ((run ch window s batches).tell ch window events).notices)
    (hid : n.call.edited? = some id) :
    ∃ m ∈ (run ch window s batches).notices, n.FollowsUp m id := by
  obtain ⟨r, hr, rfl, hrecoveries⟩ := exists_record_of_edited hn hid
  obtain ⟨i, hi, -⟩ := existsUnique_isOrigin_run ch window s batches r hr
  obtain ⟨m, hm, hleaves, houtages⟩ := hi.exists_mem
  exact ⟨m, hm, hleaves.call_eq, houtages, fun e he =>
    ⟨(hrecoveries e he).1, hleaves.mem_names_iff.mp (hrecoveries e he).2⟩⟩

/-- **Every edit of a run follows up an earlier message.** -/
theorem Desk.exists_followsUp_run (ch : Channel σ) (window : Span) (s : σ)
    (batches : List (List Event)) :
    ∀ before n after id, (run ch window s batches).notices = before ++ n :: after →
      n.call.edited? = some id → ∃ m ∈ before, n.FollowsUp m id := by
  induction batches using List.reverseRecOn with
  | nil =>
    intro before n after id hnotices
    have hlength := congrArg List.length hnotices
    simp [run] at hlength
  | append_singleton batches events ih =>
    intro before n after id hnotices hid
    rw [run_append_singleton] at hnotices
    -- the edit is among the calls of the last batch, or all went on before that batch
    rcases List.append_eq_append_iff.mp hnotices with ⟨told, rfl, htold⟩ | ⟨rest, hold, hrest⟩
    · have hn : n ∈ ((run ch window s batches).tell ch window events).notices := by
        rw [htold]
        simp
      obtain ⟨m, hm, hfollows⟩ := exists_followsUp_tell ch window s batches hn hid
      exact ⟨m, List.mem_append_left _ hm, hfollows⟩
    · cases rest with
      | nil =>
        have hn : n ∈ ((run ch window s batches).tell ch window events).notices := by
          rw [← List.nil_append (tell ..).notices, ← hrest]
          exact List.mem_cons_self
        obtain ⟨m, hm, hfollows⟩ := exists_followsUp_tell ch window s batches hn hid
        rw [hold, List.append_nil] at hm
        exact ⟨m, hm, hfollows⟩
      | cons n' rest =>
        obtain ⟨rfl, -⟩ := List.cons.inj hrest
        exact ih before n rest id hold hid

/-- No message is edited twice, and every edit follows up the message that it edits: `notices` are
the calls so far, and `p` is what is pending after them. -/
structure EditedOnce (notices : List Notice) (p : Pending) : Prop where
  /-- No number is edited twice. -/
  nodup_edited : (numbersEdited notices).Nodup
  /-- No number is held twice. -/
  nodup_held : p.numbers.Nodup
  /-- No number that is held has been edited. -/
  disjoint : Disjoint p.numbers (numbersEdited notices)
  /-- An edited message was sent before, told of outages, and named the target of every recovery
  that the edit tells. -/
  exists_followsUp : ∀ before n after id, notices = before ++ n :: after →
    n.call.edited? = some id → ∃ m ∈ before, n.FollowsUp m id

/-- **No message is edited twice**, as long as the channel does not repeat a number, and every edit
is about outages that its message told. -/
theorem editedOnce_run (ch : Channel σ) (window : Span) (s : σ) (batches : List (List Event))
    (hissued : (numbersIssued (Desk.run ch window s batches).notices).Nodup) :
    EditedOnce (Desk.run ch window s batches).notices (Desk.run ch window s batches).pending := by
  have hnodup := Multiset.nodup_of_le (Desk.numbers_run_le ch window s batches) hissued
  obtain ⟨hheld, hspent, hdisjoint⟩ := Multiset.nodup_add.mp hnodup
  exact ⟨hspent, hheld, hdisjoint, Desk.exists_followsUp_run ch window s batches⟩

/-- The edit of the first message fails, and its recovery is handed in once more; the message about
a group is edited when one of its two targets comes back twice, and then both come back. -/
theorem editedOnce_run_repeated :
    let down (name : String) (ms : Int) : Event :=
      ⟨.down, name, "10.0.0.1", 8080, .stateChange, .atMillis ms⟩
    let back (name : String) (ms : Int) : Event :=
      ⟨.recovered, name, "10.0.0.1", 8080, .stateChange, .atMillis ms⟩
    let batches := [[down "a" 0], [back "a" 5000], [back "a" 5000],
      [down "a" 10000, down "b" 10000], [back "a" 12000, back "a" 12000],
      [back "a" 13000, back "b" 13000]]
    let d := Desk.run Script.channel (.ofSeconds 30) { edits := [false] } batches
    (numbersIssued d.notices).Nodup ∧ numbersEdited d.notices = {100, 101} ∧
      EditedOnce d.notices d.pending := by
  intro down back batches d
  have hissued : (numbersIssued d.notices).Nodup := by decide +kernel
  exact ⟨hissued, by decide +kernel, editedOnce_run _ _ _ batches hissued⟩

end Uptime
