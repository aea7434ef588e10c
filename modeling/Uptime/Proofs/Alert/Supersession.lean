import Uptime.Channel.Script
import Uptime.Proofs.Alert.Desk

/-!
# Targets that are down again

The records that name a target after a new outage of it, whatever was told before and however
the channel answers. Older groups are always gone. An older message about the target alone is
gone only if the new one takes its place: the messages about one target are not looked through,
they are overwritten, and only by a message that is about the same target alone and has a
number.

## Main definitions

* `Call.isTracked`: whether a call asks for the number of a message.
* `Pending.Apart`: no two groups share a member.
* `Supersession`: what a batch does to the records of a target that is down again.

## Main results

* `Desk.apart_run`: groups never share a member.
* `supersession_run`: every new outage has the described effect.
-/

namespace Uptime

variable {σ : Type}

/-- Whether a call asks for the number of a message. -/
def Call.isTracked : Call → Bool
  | sendTracked .. => true
  | _ => false

/-! ### The message about outages -/

/-- Edits do not ask for numbers. -/
theorem SingleEdits.isTracked_eq_false {window : Span} {m : NameMap PendingSingle}
    {es left : List Event} {ns : List Notice} (h : SingleEdits window m es ns left) :
    ∀ n ∈ ns, n.call.isTracked = false := by
  intro n hn
  obtain ⟨e, -, q, ok, -, rfl⟩ := h.exists_of_mem n hn
  rfl

theorem GroupEdit.isTracked_eq_false {g? : Option PendingGroup} {es left : List Event}
    {ns : List Notice} (h : GroupEdit g? es ns left) : ∀ n ∈ ns, n.call.isTracked = false := by
  cases h with
  | missed => intro n hn; simp at hn
  | edited ok =>
    intro n hn
    obtain rfl := List.mem_singleton.mp hn
    rfl

/-- The notice of the message about some outages, if there are any. -/
def outageNotices (receipt : Receipt) (outages : List Event) : List Notice :=
  if outages = [] then [] else [⟨.sendTracked (Alert.groupText outages) receipt, outages⟩]

theorem Announcement.filter_isTracked {receipt : Receipt} {category : Category} {es : List Event}
    {ns : List Notice} (h : Announcement receipt category es ns) :
    (ns.filter fun n => n.call.isTracked) =
      if category = .outage then outageNotices receipt es else [] := by
  cases h with
  | silent => simp [outageNotices]
  | plain ok hcategory hne => simp [hcategory, Call.isTracked]
  | tracked hne => simp [outageNotices, hne, Call.isTracked]

/-- **The message about outages is the only one whose number is asked for.** -/
theorem filter_isTracked_of_announcements {receipt : Receipt} {es : List Event}
    {nss : List (List Notice)}
    (h : List.Forall₂ (fun k ns => Announcement receipt k (ofCategory es k) ns)
      Category.all nss) :
    (nss.flatten.filter fun n => n.call.isTracked) =
      outageNotices receipt (ofCategory es .outage) := by
  have hall : ∀ {categories : List Category} {nss : List (List Notice)},
      List.Forall₂ (fun k ns => Announcement receipt k (ofCategory es k) ns) categories nss →
        (nss.flatten.filter fun n => n.call.isTracked) = categories.flatMap fun k =>
          if k = .outage then outageNotices receipt (ofCategory es k) else [] := by
    intro categories nss h
    induction h with
    | nil => rfl
    | cons hns _ ih =>
      rw [List.flatten_cons, List.filter_append, hns.filter_isTracked, ih, List.flatMap_cons]
  rw [hall h]
  simp [Category.all, Category.outage]

/-- The same of a whole batch, given its passes. -/
theorem filter_isTracked_of_passes {window : Span} {m : NameMap PendingSingle}
    {g? : Option PendingGroup} {events left rest : List Event} {singles grouped : List Notice}
    {receipt : Receipt} {nss : List (List Notice)}
    (hsingles : SingleEdits window m (recoveries events) singles left)
    (hgrouped : GroupEdit g? left grouped rest)
    (hnss : List.Forall₂ (fun k ns => Announcement receipt k (ofCategory (others events ++ rest) k) ns)
      Category.all nss) :
    ((singles ++ grouped ++ nss.flatten).filter fun n => n.call.isTracked) =
      outageNotices receipt (ofCategory events .outage) := by
  rw [List.filter_append, List.filter_append, filter_isTracked_of_announcements hnss,
    List.filter_eq_nil_iff.mpr (by simpa using hsingles.isTracked_eq_false),
    List.filter_eq_nil_iff.mpr (by simpa using hgrouped.isTracked_eq_false),
    ofCategory_others_append (hgrouped.sublist.trans hsingles.sublist)
      (show Category.outage ≠ .recovery by decide)]
  rfl

/-! ### Records of targets that do not recover -/

/-- A recovery uses up the record of its own target only. -/
theorem find?_consume_of_notMem {m : NameMap PendingSingle} {es : List Event} {target : String}
    (h : target ∉ es.map Event.target) : (consume m es).find? target = m.find? target := by
  induction es generalizing m with
  | nil => rfl
  | cons e es ih =>
    rw [List.map_cons, List.mem_cons, not_or] at h
    have hrest : (consume (m.erase e.target) es).find? target = (m.erase e.target).find? target :=
      ih h.2
    rw [NameMap.find?_erase, if_neg h.1] at hrest
    exact hrest

/-- The edits of a batch leave the record of a target alone that does not come back. -/
theorem Pending.find?_singles_edited (p : Pending) (window : Span) {events : List Event}
    (left : List Event) (hd : (events.map Event.target).Nodup) {e : Event} (he : e ∈ events)
    (hcategory : e.category ≠ .recovery) :
    (p.edited window events left).singles.find? e.target = p.singles.find? e.target := by
  refine find?_consume_of_notMem fun h => ?_
  -- there is no second event about the target
  obtain ⟨back, hback, htarget⟩ := List.mem_map.mp h
  obtain ⟨hback, hrecovery⟩ := List.mem_filter.mp hback
  obtain rfl := List.inj_on_of_nodup_map hd hback he htarget
  exact hcategory (by simpa using hrecovery)

/-- Nothing but a message about one outage that has a number changes the messages about one
target. -/
theorem Pending.singles_announced (p : Pending) (window : Span) {receipt : Receipt}
    {outages : List Event} (h : ¬ (outages.length = 1 ∧ receipt.id?.isSome)) :
    (p.announced window receipt outages).singles = p.singles := by
  match outages, receipt with
  | [], _ => rfl
  | _ :: _, .failed => rfl
  | _ :: _, .untracked => rfl
  | [e], .tracked id => exact absurd ⟨rfl, rfl⟩ h
  | _ :: _ :: _, .tracked id => rfl

/-! ### Groups -/

/-- No two groups share a member. -/
def Pending.Apart (p : Pending) : Prop :=
  p.groups.Pairwise fun g g' => g.targets.names.Disjoint g'.targets.names

namespace Pending.Apart

variable {p : Pending}

theorem of_sublist {q : Pending} (hp : p.Apart) (h : q.groups.Sublist p.groups) : q.Apart :=
  hp.sublist h

/-- A group is added only after the groups of all its members have gone. -/
theorem announced (hp : p.Apart) (window : Span) (receipt : Receipt) (outages : List Event) :
    (p.announced window receipt outages).Apart := by
  match outages with
  | [] => exact hp
  | e :: es =>
    have holder : (p.supersede (e :: es) (Consolidation.lastOccurred e es) window).Apart :=
      hp.of_sublist (p.groups_supersede_sublist _ _ _)
    match es, receipt with
    | _, .failed => exact holder
    | _, .untracked => exact holder
    | [], .tracked id => exact holder
    | e' :: es, .tracked id =>
      -- the groups that survive name no target of the new one
      refine List.pairwise_append.mpr ⟨holder, List.pairwise_singleton _ _, ?_⟩
      intro g hg g' hg' name hname hname'
      obtain rfl := List.mem_singleton.mp hg'
      have hgone := p.filter_groups_supersede (mem_names_eventsByTarget.mp hname')
        (Consolidation.lastOccurred e (e' :: es)) window
      exact List.filter_eq_nil_iff.mp hgone g hg (by simpa using hname)

end Pending.Apart

/-- Groups never share a member. -/
theorem Desk.apart_run (ch : Channel σ) (window : Span) (s : σ) (batches : List (List Event)) :
    (run ch window s batches).pending.Apart := by
  refine run_induction (P := fun d => d.pending.Apart) List.Pairwise.nil fun d events _ h => ?_
  obtain ⟨_, left, _, _, receipt, _, _, -, -, -, heq⟩ :=
    deliver_eq ch window d.channel d.pending events
  rw [take, tell, heq]
  exact (h.of_sublist (d.pending.groups_edited_sublist window events left)).announced _ _ _

/-! ### New outages -/

/-- A list with a given member is that member alone if it has one member. -/
private theorem length_eq_one_iff_of_mem {e : Event} {es : List Event} (he : e ∈ es) :
    es.length = 1 ↔ es = [e] := by
  constructor
  · intro hlength
    obtain ⟨e', rfl⟩ := List.length_eq_one_iff.mp hlength
    rw [List.mem_singleton.mp he]
  · rintro rfl
    rfl

namespace PendingRecord

/-- A message has a record about one target only if it is about one target. -/
theorem of_single_mem_ofReceipt {receipt : Receipt} {outages : List Event} {target : String}
    {q : PendingSingle} (h : single target q ∈ ofReceipt receipt outages) :
    outages.length = 1 ∧ receipt.id?.isSome := by
  obtain ⟨id, hid, hrecord⟩ := List.mem_flatMap.mp h
  rw [Option.mem_toList] at hid
  refine ⟨?_, Option.isSome_iff_exists.mpr ⟨id, hid⟩⟩
  match outages with
  | [] => simp [ofOutages] at hrecord
  | [_] => rfl
  | _ :: _ :: _ => simp [ofOutages] at hrecord

theorem length_ofReceipt (receipt : Receipt) {outages : List Event} (h : outages ≠ []) :
    (ofReceipt receipt outages).length = receipt.id?.toList.length := by
  rw [ofReceipt]
  cases receipt.id? with
  | none => rfl
  | some id =>
    cases outages with
    | nil => exact absurd rfl h
    | cons e es => cases es <;> rfl

end PendingRecord

section Kept

variable {e : Event} {outages : List Event} {receipt : Receipt} {old? : Option PendingSingle}

/-- The records that name the target of an outage `e`: the new one and, unless it is replaced,
an older one of a message about the target alone. -/
def keptAndNew (e : Event) (outages : List Event) (receipt : Receipt)
    (old? : Option PendingSingle) : List PendingRecord :=
  (if outages = [e] ∧ receipt.id?.isSome then [] else old?.toList.map (.single e.target)) ++
    PendingRecord.ofReceipt receipt outages

theorem forall_keptAndNew_iff (he : e ∈ outages) :
    (∀ r ∈ keptAndNew e outages receipt old?, r ∈ PendingRecord.ofReceipt receipt outages) ↔
      old? = none ∨ (outages = [e] ∧ receipt.id?.isSome) := by
  rw [keptAndNew]
  by_cases hreplaced : outages = [e] ∧ receipt.id?.isSome
  · simp [hreplaced]
  · rw [if_neg hreplaced]
    cases old? with
    | none => simp
    | some q =>
      constructor
      · intro h
        obtain ⟨hlength, hid⟩ := PendingRecord.of_single_mem_ofReceipt
          (h (.single e.target q) (List.mem_append_left _ List.mem_cons_self))
        exact .inr ⟨(length_eq_one_iff_of_mem he).mp hlength, hid⟩
      · rintro (h | h)
        · cases h
        · exact absurd h hreplaced

theorem length_keptAndNew_le_one_iff (he : e ∈ outages) :
    (keptAndNew e outages receipt old?).length ≤ 1 ↔
      old? = none ∨ receipt.id? = none ∨ outages = [e] := by
  have hne : outages ≠ [] := List.ne_nil_of_mem he
  rw [keptAndNew, List.length_append, PendingRecord.length_ofReceipt receipt hne]
  by_cases hone : outages = [e] <;> cases receipt.id? <;> cases old? <;> simp [hone]

end Kept

/-- The effect of a new outage `e` on the records that name its target: `outages` are the
outages of its batch, told by a message that was answered by `receipt`; `before` are the events of
the batches before, `old` and `new` what is pending before and afterwards. -/
structure Supersession (before : List Event) (old : Pending) (e : Event) (outages : List Event)
    (receipt : Receipt) (notices : List Notice) (new : Pending) : Prop where
  /-- One message tells of the outages. -/
  filter_notices : (notices.filter fun n => n.call.isTracked) =
    [⟨.sendTracked (Alert.groupText outages) receipt, outages⟩]
  /-- The records that name the target: an older one of a message about the target alone, unless
  it is replaced, and the new one. Every older group is gone. -/
  naming_eq : new.naming e.target =
    keptAndNew e outages receipt (old.singles.find? e.target)
  /-- When the new record is the only one. -/
  forall_naming_iff :
    (∀ r ∈ new.naming e.target, r ∈ PendingRecord.ofReceipt receipt outages) ↔
      old.singles.find? e.target = none ∨ (outages = [e] ∧ receipt.id?.isSome)
  /-- When there is one record at most. -/
  length_naming_le_one_iff : (new.naming e.target).length ≤ 1 ↔
    old.singles.find? e.target = none ∨ receipt.id? = none ∨ outages = [e]
  /-- The older record tells of an older outage. -/
  stale : ∀ q, old.singles.find? e.target = some q →
    ∃ o ∈ before, o.category = .outage ∧ o.target = e.target ∧
      q = ⟨q.messageId, o.occurred, o.reason, o.address, o.port⟩
  /-- As long as it is not replaced, recoveries are tried on it as if there was no new outage. -/
  recordIn_eq : ¬ (outages = [e] ∧ receipt.id?.isSome) → ∀ window back, back.target = e.target →
    recordIn new.singles window back = recordIn old.singles window back
  /-- Targets that are not down again are named by no other records than before. -/
  naming_sublist : ∀ target ∉ outages.map Event.target,
    (new.naming target).Sublist (old.naming target)
  /-- No two groups share a member. -/
  apart : new.Apart

/-- **What a new outage does to the records that name its target**, in any run and however the
channel answers. -/
theorem supersession_run (ch : Channel σ) (window : Span) (s : σ) (batches : List (List Event))
    {events : List Event} {e : Event} (hd : (events.map Event.target).Nodup) (he : e ∈ events)
    (houtage : e.category = .outage) :
    ∃ receipt, Supersession (Desk.run ch window s batches).events
      (Desk.run ch window s batches).pending e (ofCategory events .outage) receipt
      ((Desk.run ch window s batches).tell ch window events).notices
      (Desk.run ch window s (batches ++ [events])).pending := by
  let d := Desk.run ch window s batches
  have hwell : d.pending.WellFormed := Desk.wellFormed_run ch window s batches
  obtain ⟨singles, left, grouped, rest, receipt, nss, t, hsingles, hgrouped, hnss, heq⟩ :=
    deliver_eq ch window d.channel d.pending events
  let edited := d.pending.edited window events left
  have hpending : (Desk.run ch window s (batches ++ [events])).pending =
      edited.announced window receipt (ofCategory events .outage) := by
    rw [Desk.run_append_singleton, Desk.take, Desk.tell, heq]
  have hmem : e ∈ ofCategory events .outage := mem_ofCategory.mpr ⟨he, houtage⟩
  have hfind : edited.singles.find? e.target = d.pending.singles.find? e.target :=
    d.pending.find?_singles_edited window left hd he (by rw [houtage]; decide)
  have hnaming : (edited.announced window receipt (ofCategory events .outage)).naming e.target =
      keptAndNew e (ofCategory events .outage) receipt (d.pending.singles.find? e.target) := by
    rw [edited.naming_announced window receipt (List.mem_map_of_mem hmem),
      Pending.singlesNaming_eq_toList (hwell.edited window events left), hfind, keptAndNew]
    simp only [length_eq_one_iff_of_mem hmem]
  refine ⟨receipt, ?_, ?_, ?_, ?_, ?_, ?_, ?_, Desk.apart_run ..⟩
  · rw [Desk.tell, heq, filter_isTracked_of_passes hsingles hgrouped hnss, outageNotices,
      if_neg (List.ne_nil_of_mem hmem)]
  · rw [hpending, hnaming]
  · rw [hpending, hnaming]
    exact forall_keptAndNew_iff hmem
  · rw [hpending, hnaming]
    exact length_keptAndNew_le_one_iff hmem
  · intro q hq
    exact Desk.stemsFrom_run ch window s batches _
      (mem_records_single.mpr (NameMap.mem_of_find? hq))
  · intro hkept window' back htarget
    rw [hpending, recordIn, recordIn, edited.singles_announced window, htarget, hfind]
    rwa [length_eq_one_iff_of_mem hmem]
  · intro target htarget
    rw [hpending]
    exact (edited.naming_announced_sublist window receipt htarget).trans
      (d.pending.naming_edited_sublist window events left target)

/-- A target whose message is pending goes down again together with another one: now two messages
name it. -/
theorem supersession_run_two_records :
    let down (name : String) (ms : Int) : Event :=
      ⟨.down, name, "10.0.0.1", 8080, .stateChange, .atMillis ms⟩
    let batches := [[down "web" 0]]
    let events := [down "db" 10000, down "web" 10000]
    let window := Span.ofSeconds 30
    (events.map Event.target).Nodup ∧ down "web" 10000 ∈ events ∧
      (down "web" 10000).category = .outage ∧
      (Desk.run Script.channel window {} (batches ++ [events])).pending.naming "web" =
        [.single "web" ⟨100, .atMillis 0, .stateChange, "10.0.0.1", 8080⟩,
          .group ⟨101, .stateChange, .atMillis 10000, eventsByTarget events⟩] ∧
      ∃ receipt, Supersession (Desk.run Script.channel window {} batches).events
        (Desk.run Script.channel window {} batches).pending (down "web" 10000)
        (ofCategory events .outage) receipt
        ((Desk.run Script.channel window {} batches).tell Script.channel window events).notices
        (Desk.run Script.channel window {} (batches ++ [events])).pending := by
  intro down batches events window
  have hd : (events.map Event.target).Nodup := by decide
  have he : down "web" 10000 ∈ events := by decide
  exact ⟨hd, he, rfl, by decide +kernel,
    supersession_run Script.channel window {} batches hd he rfl⟩

end Uptime
