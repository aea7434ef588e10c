import Mathlib.Data.Finset.Card
import Mathlib.Data.List.Nodup
import Uptime.Proofs.Alert.Origin

/-!
# What is pending throughout a run

The records that a desk holds are consistent with each other and with the calls that have been
made, whatever batches it was handed and however the channel has answered. A record repeats what the
call from which it stems has told, field by field. Groups share no members, and each has at least
one, so there cannot be more groups than targets; when no two events of a batch are about one
target, each has two, and there are at most half as many.

## Main definitions

* `PendingRecord.Recalls`: a record repeats what was told of some outages.
* `Notice.AccountsFor`: a call has told what a record repeats, under the number of the record.
* `PendingGroup.Survives`: a group is kept when new outages are told.
* `Remembered`: what the message about some outages leaves.
* `Renewal`: what becomes of the records when the outages of a batch are told.
* `Desk.Consistent`: the records fit together, and each stems from one call.
* `Desk.Bounded`: the number of records.

## Main results

* `PendingRecord.recalls_of_mem_ofOutages`: a record repeats what was told.
* `Pending.remembered_announced`: what is pending after new outages.
* `Desk.two_mul_length_groups_le`: disjoint groups of two members each are few.
* `consistent_run`: all of this holds throughout a run.
-/

namespace Uptime

variable {σ : Type}

/-! ### What a record repeats -/

/-- A record repeats what was told of some outages. One about a single target says when and how its
outage, the only one told, was found, and where the target is. One about a group has every outage
under the name of its target, the last one if a target was told of twice, and the time of the
first. -/
def PendingRecord.Recalls (outages : List Event) : PendingRecord → Prop
  | single target q => ∃ e, outages = [e] ∧ target = e.target ∧ q.downAt = e.occurred ∧
      q.reason = e.reason ∧ q.address = e.address ∧ q.port = e.port
  | group g => 2 ≤ outages.length ∧ g.reason = .stateChange ∧
      (∃ e, outages.head? = some e ∧ g.downAt = e.occurred) ∧
      ∀ name, g.targets.find? name = (outages.filter fun e => e.target = name).getLast?

/-- A call accounts for a record: it told of outages, the message got the number of the record, and
the record repeats what was told. -/
structure Notice.AccountsFor (n : Notice) (r : PendingRecord) : Prop where
  call_eq : n.call = .sendTracked (Alert.groupText n.events) (.tracked r.messageId)
  outages : ∀ e ∈ n.events, e.kind = .down ∧ e.reason = .stateChange
  recalls : r.Recalls n.events

/-- The two coordinates of an outage. -/
theorem kind_and_reason_of_outage {e : Event} (h : e.category = .outage) :
    e.kind = .down ∧ e.reason = .stateChange :=
  Category.mk.inj h

theorem PendingRecord.recalls_of_mem_ofOutages {id : MessageId} {outages : List Event}
    (houtages : ∀ e ∈ outages, e.category = .outage) {r : PendingRecord}
    (h : r ∈ ofOutages id outages) : r.Recalls outages := by
  match outages with
  | [] => cases h
  | [e] =>
    obtain rfl := List.mem_singleton.mp h
    exact ⟨e, rfl, rfl, rfl, rfl, rfl, rfl⟩
  | e :: e' :: es =>
    obtain rfl := List.mem_singleton.mp h
    exact ⟨by simp, (kind_and_reason_of_outage (houtages e List.mem_cons_self)).2, ⟨e, rfl, rfl⟩,
      find?_eventsByTarget _⟩

/-- The call from which a record stems accounts for it. -/
theorem PendingRecord.IsOrigin.exists_accountsFor {r : PendingRecord} {notices : List Notice}
    {i : Nat} (h : r.IsOrigin notices i) : ∃ n, notices[i]? = some n ∧ n.AccountsFor r := by
  obtain ⟨n, after, hdrop, hleaves, houtages, -⟩ := h
  refine ⟨n, ?_, hleaves.call_eq, fun e he => kind_and_reason_of_outage (houtages e he), ?_⟩
  · rw [← List.head?_drop, hdrop, List.head?_cons]
  · obtain ⟨id, -, hr⟩ := hleaves
    exact recalls_of_mem_ofOutages houtages hr

/-! ### Records after new outages -/

/-- A group survives new outages, the last of which was seen at `now`, if it is not older than the
window and none of its members is among them. -/
def PendingGroup.Survives (g : PendingGroup) (outages : List Event) (now : Instant)
    (window : Span) : Prop :=
  now - g.downAt ≤ window ∧ ∀ name ∈ g.targets.names, name ∉ outages.map Event.target

instance (g : PendingGroup) (outages : List Event) (now : Instant) (window : Span) :
    Decidable (g.Survives outages now window) :=
  inferInstanceAs (Decidable (_ ∧ _))

theorem PendingGroup.survives_iff {g : PendingGroup} {outages : List Event} {now : Instant}
    {window : Span} : g.Survives outages now window ↔
      now - g.downAt ≤ window ∧ ∀ e ∈ outages, g.targets.contains e.target = false := by
  refine and_congr_right fun _ => ?_
  simp only [NameMap.contains_eq_false_iff, List.mem_map, not_exists, not_and]
  constructor
  · intro h e he hname
    exact h _ hname e he rfl
  · rintro h _ hname e he rfl
    exact h e he hname

/-- What the message about some outages leaves: `singles` and `told` are the records about one
target before and after it, and `new` are the groups it adds. -/
inductive Remembered (outages : List Event) (singles : NameMap PendingSingle) :
    Receipt → NameMap PendingSingle → List PendingGroup → Prop
  /-- Nothing without a number. -/
  | nothing {receipt : Receipt} (hreceipt : ∀ id, receipt ≠ .tracked id) :
      Remembered outages singles receipt singles []
  /-- A lone outage takes the place of the one that was known of its target. -/
  | single {id : MessageId} {e : Event} {told : NameMap PendingSingle} (houtages : outages = [e])
      (htold : ∀ name, told.find? name = if name = e.target then
        some ⟨id, e.occurred, e.reason, e.address, e.port⟩ else singles.find? name) :
      Remembered outages singles (.tracked id) told []
  /-- Several outages are a new group. -/
  | group {g : PendingGroup} (hrecalls : (PendingRecord.group g).Recalls outages) :
      Remembered outages singles (.tracked g.messageId) singles [g]

namespace Pending

variable {p : Pending} {outages : List Event} {now : Instant}

theorem groups_supersede (p : Pending) (outages : List Event) (now : Instant) (window : Span) :
    (p.supersede outages now window).groups =
      p.groups.filter fun g => g.Survives outages now window := by
  rw [supersede]
  refine List.filter_congr fun g _ => ?_
  rw [decide_eq_decide, PendingGroup.survives_iff]

/-- A message about outages that has a number is remembered. -/
theorem remembered_record (p : Pending) (id : MessageId) (hne : outages ≠ [])
    (houtages : ∀ e ∈ outages, e.category = .outage) :
    ∃ new, (p.record id outages).groups = p.groups ++ new ∧
      Remembered outages p.singles (.tracked id) (p.record id outages).singles new := by
  match outages with
  | [] => exact absurd rfl hne
  | [e] =>
    exact ⟨[], (List.append_nil _).symm, .single rfl fun name => NameMap.find?_insert ..⟩
  | e :: e' :: es =>
    exact ⟨_, rfl, .group (PendingRecord.recalls_of_mem_ofOutages houtages List.mem_cons_self)⟩

/-- **What is pending after the message about some outages**: the older groups that survive them,
whatever becomes of the message, and what it leaves. -/
theorem remembered_announced (p : Pending) (window : Span) (receipt : Receipt)
    (hnow : IsLatest now outages) (houtages : ∀ e ∈ outages, e.category = .outage) :
    ∃ new, (p.announced window receipt outages).groups =
        (p.groups.filter fun g => g.Survives outages now window) ++ new ∧
      Remembered outages p.singles receipt (p.announced window receipt outages).singles new := by
  cases outages with
  | nil =>
    obtain ⟨e, he, -⟩ := hnow.exists_eq
    cases he
  | cons e es =>
    -- which groups are kept is decided before the answer is known
    obtain rfl := hnow.eq (isLatest_lastOccurred e es) fun _ => Iff.rfl
    let older := p.supersede (e :: es) (Consolidation.lastOccurred e es) window
    have holder : older.groups = p.groups.filter fun g =>
        g.Survives (e :: es) (Consolidation.lastOccurred e es) window := p.groups_supersede _ _ _
    rw [← holder]
    cases receipt with
    | tracked id => exact older.remembered_record id (List.cons_ne_nil e es) houtages
    | failed | untracked =>
      exact ⟨[], (List.append_nil _).symm, .nothing fun id h => by cases h⟩

end Pending

/-- What becomes of the records when the outages of a batch are told, the last of which was seen at
`now`: `old` is the batch after its edits and `told` the whole batch. Which groups survive does not
depend on the answer. -/
def Renewal (window : Span) (outages : List Event) (now : Instant) (old told : Consolidation σ) :
    Prop :=
  ∃ receipt new, ⟨.sendTracked (Alert.groupText outages) receipt, outages⟩ ∈ told.notices ∧
    told.pending.groups =
      (old.pending.groups.filter fun g => g.Survives outages now window) ++ new ∧
    Remembered outages old.pending.singles receipt told.pending.singles new

/-- Telling the outages of a batch is all that happens to the records after the edits. -/
theorem renewal_deliver (ch : Channel σ) (window : Span) (s : σ) (p : Pending)
    {events : List Event} {now : Instant} (hnow : IsLatest now (ofCategory events .outage)) :
    Renewal window (ofCategory events .outage) now (afterEdits ch window s p events)
      (deliver ch window s p events) := by
  obtain ⟨singles, left, grouped, rest, t₁, hsingles, hgrouped, hedits⟩ :=
    afterEdits_eq ch window s p events
  obtain ⟨receipt, nss, t, hnss, heq⟩ :=
    Consolidation.foldl_announce ch window (afterEdits ch window s p events)
  have hrest : rest.Sublist (recoveries events) := hgrouped.sublist.trans hsingles.sublist
  rw [hedits] at hnss
  rw [deliver_eq_foldl, heq, hedits]
  simp only [ofCategory_others_append hrest (show Category.outage ≠ .recovery by decide)]
  have hne : ofCategory events .outage ≠ [] := by
    obtain ⟨e, he, -⟩ := hnow.exists_eq
    exact List.ne_nil_of_mem he
  obtain ⟨new, hgroups, hnew⟩ := (p.edited window events left).remembered_announced window receipt
    hnow fun e he => (mem_ofCategory.mp he).2
  refine ⟨receipt, new, ?_, hgroups, hnew⟩
  have htracked := filter_isTracked_of_passes hsingles hgrouped hnss
  rw [outageNotices, if_neg hne] at htracked
  have hmem : Notice.ofOutages receipt (ofCategory events .outage) ∈
      (singles ++ grouped ++ nss.flatten).filter fun n => n.call.isTracked := by
    rw [htracked]
    exact List.mem_cons_self
  exact (List.mem_filter.mp hmem).1

/-! ### Consistency -/

/-- The records of a desk fit together, and each stems from one of the calls. -/
structure Desk.Consistent (d : Desk σ) : Prop where
  /-- No target has two records of its own, and no group a member twice. -/
  wellFormed : d.pending.WellFormed
  /-- Groups have members. -/
  names_ne_nil : ∀ g ∈ d.pending.groups, g.targets.names ≠ []
  /-- They share none. -/
  apart : d.pending.Apart
  /-- They are filed under changes, and so are the outages of their members, each under the name
  of its target. -/
  members : ∀ g ∈ d.pending.groups, g.reason = .stateChange ∧ ∀ entry ∈ g.targets,
    entry.2.kind = .down ∧ entry.2.reason = .stateChange ∧ entry.2.target = entry.1
  /-- No record is held twice. -/
  nodup_records : d.pending.records.Nodup
  /-- Every record stems from one call. -/
  existsUnique_isOrigin : ∀ r ∈ d.pending.records, ∃! i, r.IsOrigin d.notices i
  /-- It repeats what that call has told. -/
  accounted : ∀ r ∈ d.pending.records, ∀ i, r.IsOrigin d.notices i →
    ∃ n, d.notices[i]? = some n ∧ n.AccountsFor r

/-- A message that leaves a group is about more than one event. -/
theorem PendingRecord.of_group_mem_ofOutages {id : MessageId} {outages : List Event}
    {g : PendingGroup} (h : .group g ∈ ofOutages id outages) :
    ∃ e e' es, outages = e :: e' :: es ∧
      g = ⟨id, e.reason, e.occurred, eventsByTarget outages⟩ := by
  match outages with
  | [] => cases h
  | [e] => cases List.mem_singleton.mp h
  | e :: e' :: es => exact ⟨e, e', es, rfl, PendingRecord.group.inj (List.mem_singleton.mp h)⟩

/-- A group stems from a message about outages that were changes, and has members. -/
theorem PendingRecord.IsOrigin.of_group {g : PendingGroup} {notices : List Notice} {i : Nat}
    (h : (group g).IsOrigin notices i) : g.reason = .stateChange ∧ g.targets.names ≠ [] := by
  obtain ⟨n, -, -, ⟨id, -, hmem⟩, houtages, -⟩ := h
  obtain ⟨e, e', es, hevents, rfl⟩ := of_group_mem_ofOutages hmem
  have he : e ∈ n.events := hevents ▸ List.mem_cons_self
  have hname : e.target ∈ (eventsByTarget n.events).names :=
    mem_names_eventsByTarget.mpr (List.mem_map_of_mem he)
  exact ⟨congrArg Category.reason (houtages e he), List.ne_nil_of_mem hname⟩

/-- Maps have no two entries of a name, and groups that share no members differ. -/
theorem Pending.nodup_records {p : Pending} (hp : p.WellFormed) (hapart : p.Apart)
    (hne : ∀ g ∈ p.groups, g.targets.names ≠ []) : p.records.Nodup := by
  have hsingles : (p.singles.map fun entry => PendingRecord.single entry.1 entry.2).Nodup :=
    (List.Nodup.of_map _ hp.singles).map fun entry entry' h => by
      obtain ⟨hname, hrecord⟩ := PendingRecord.single.inj h
      exact Prod.ext hname hrecord
  have hgroups : (p.groups.map PendingRecord.group).Nodup := by
    refine List.Nodup.map (fun g g' h => PendingRecord.group.inj h) ?_
    refine List.Pairwise.imp_of_mem (fun {g g'} hg _ hdisjoint heq => ?_) hapart
    subst heq
    obtain ⟨name, hname⟩ := List.exists_mem_of_ne_nil _ (hne g hg)
    exact hdisjoint hname hname
  refine hsingles.append hgroups fun r hsingle hgroup => ?_
  obtain ⟨entry, -, rfl⟩ := List.mem_map.mp hsingle
  obtain ⟨g, -, h⟩ := List.mem_map.mp hgroup
  cases h

/-! ### Bounds -/

/-- The targets whose outages were handed in. -/
def Desk.outageTargets (d : Desk σ) : Finset String :=
  ((d.events.filter fun e => e.category = .outage).map Event.target).toFinset

/-- There are no more records about single targets than targets, and half as many groups. -/
structure Desk.Bounded (d : Desk σ) : Prop where
  singles : d.pending.singles.length ≤ d.outageTargets.card
  groups : 2 * d.pending.groups.length ≤ d.outageTargets.card

/-- What a record names has been handed in. -/
theorem PendingRecord.StemsFrom.mem_outageTargets {d : Desk σ} {r : PendingRecord}
    (h : r.StemsFrom d.events) {name : String} (hname : name ∈ r.names) :
    name ∈ d.outageTargets := by
  have hmem : ∀ o ∈ d.events, o.category = .outage → o.target = name → name ∈ d.outageTargets := by
    rintro o ho hcategory rfl
    rw [Desk.outageTargets, List.mem_toFinset]
    exact List.mem_map_of_mem (List.mem_filter.mpr ⟨ho, by simpa using hcategory⟩)
  cases r with
  | single target q =>
    obtain rfl := List.mem_singleton.mp hname
    obtain ⟨o, ho, hcategory, htarget, -⟩ := h
    exact hmem o ho hcategory htarget
  | group g =>
    obtain ⟨entry, hentry, rfl⟩ := List.mem_map.mp hname
    obtain ⟨ho, hcategory, htarget⟩ := h entry hentry
    exact hmem _ ho hcategory htarget

/-- If no two events of a batch are about one target, groups have two members at least. -/
theorem Desk.two_le_length_names_run (ch : Channel σ) (window : Span) (s : σ)
    {batches : List (List Event)}
    (hbatches : ∀ batch ∈ batches, (batch.map Event.target).Nodup) :
    ∀ g ∈ (run ch window s batches).pending.groups, 2 ≤ g.targets.names.length := by
  refine run_induction (P := fun d => ∀ g ∈ d.pending.groups, 2 ≤ g.targets.names.length)
    (fun g hg => absurd hg List.not_mem_nil) fun d events hevents h g hg => ?_
  rcases mem_records_deliver (mem_records_group.mpr hg) with hold | ⟨id, hnew⟩
  · exact h g (mem_records_group.mp hold)
  · obtain ⟨e, e', es, houtages, rfl⟩ := PendingRecord.of_group_mem_ofOutages hnew
    have hd : ((ofCategory events .outage).map Event.target).Nodup :=
      ((sortByName_perm _ _).map _).nodup_iff.mpr
        ((hbatches events hevents).sublist (List.filter_sublist.map _))
    -- the first two targets are different members
    have hpair : [e.target, e'.target].Sublist ((ofCategory events .outage).map Event.target) := by
      rw [houtages]
      simp
    have hsub : [e.target, e'.target] ⊆ (eventsByTarget (ofCategory events .outage)).names :=
      fun name hname => mem_names_eventsByTarget.mpr (hpair.subset hname)
    exact ((hd.sublist hpair).subperm hsub).length_le

/-- Lists of two members each are at most half as many as members. -/
private theorem two_mul_length_le_flatMap {α β : Type} {f : α → List β} {xs : List α}
    (h : ∀ x ∈ xs, 2 ≤ (f x).length) : 2 * xs.length ≤ (xs.flatMap f).length := by
  induction xs with
  | nil => simp
  | cons x xs ih =>
    have hx := h x List.mem_cons_self
    have hxs := ih fun y hy => h y (List.mem_cons_of_mem _ hy)
    rw [List.flatMap_cons, List.length_append, List.length_cons]
    omega

/-- A list without repetition is no longer than a set that contains it. -/
private theorem length_le_card {names : List String} {targets : Finset String} (hd : names.Nodup)
    (hsub : ∀ name ∈ names, name ∈ targets) : names.length ≤ targets.card := by
  rw [← List.toFinset_card_of_nodup hd]
  exact Finset.card_le_card fun name hname => hsub name (List.mem_toFinset.mp hname)

/-- **Disjoint groups are few.** -/
theorem Desk.two_mul_length_groups_le {d : Desk σ} (hwell : d.pending.WellFormed)
    (hapart : d.pending.Apart) (hstems : ∀ r ∈ d.pending.records, r.StemsFrom d.events)
    (htwo : ∀ g ∈ d.pending.groups, 2 ≤ g.targets.names.length) :
    2 * d.pending.groups.length ≤ d.outageTargets.card := by
  refine (two_mul_length_le_flatMap htwo).trans (length_le_card ?_ fun name hname => ?_)
  · exact List.nodup_flatMap.mpr ⟨hwell.groups, hapart⟩
  · obtain ⟨g, hg, hname⟩ := List.mem_flatMap.mp hname
    exact (hstems _ (mem_records_group.mpr hg)).mem_outageTargets hname

/-! ### Runs -/

/-- **What is pending throughout a run.** The records are consistent; when the outages of one more
batch are told, the older groups survive that are not too old and have no member among them, and the
message is remembered if it has a number; and if no two events of a batch are about one target,
there are few records. -/
theorem consistent_run (ch : Channel σ) (window : Span) (s : σ) (batches : List (List Event)) :
    (Desk.run ch window s batches).Consistent ∧
    (∀ events now, IsLatest now (ofCategory events .outage) →
      Renewal window (ofCategory events .outage) now
        (afterEdits ch window (Desk.run ch window s batches).channel
          (Desk.run ch window s batches).pending events)
        ((Desk.run ch window s batches).tell ch window events)) ∧
    ((∀ batch ∈ batches, (batch.map Event.target).Nodup) →
      (Desk.run ch window s batches).Bounded) := by
  have hwell := Desk.wellFormed_run ch window s batches
  have hapart := Desk.apart_run ch window s batches
  have hstems := Desk.stemsFrom_run ch window s batches
  have horigin := Desk.existsUnique_isOrigin_run ch window s batches
  have hgroup : ∀ g ∈ (Desk.run ch window s batches).pending.groups,
      g.reason = .stateChange ∧ g.targets.names ≠ [] := by
    intro g hg
    obtain ⟨i, hi, -⟩ := horigin _ (mem_records_group.mpr hg)
    exact hi.of_group
  have hne := fun g hg => (hgroup g hg).2
  refine ⟨⟨hwell, hne, hapart, fun g hg => ⟨(hgroup g hg).1, fun entry hentry => ?_⟩,
    Pending.nodup_records hwell hapart hne, horigin, fun r _ i hi => hi.exists_accountsFor⟩,
    fun events now hnow => renewal_deliver ch window _ _ hnow, fun hbatches => ⟨?_, ?_⟩⟩
  · obtain ⟨-, hcategory, htarget⟩ := hstems _ (mem_records_group.mpr hg) entry hentry
    obtain ⟨hkind, hreason⟩ := kind_and_reason_of_outage hcategory
    exact ⟨hkind, hreason, htarget⟩
  · rw [← List.length_map Prod.fst]
    refine length_le_card hwell.singles fun name hname => ?_
    obtain ⟨entry, hentry, rfl⟩ := List.mem_map.mp hname
    exact (hstems _ (mem_records_single.mpr hentry)).mem_outageTargets List.mem_cons_self
  · exact Desk.two_mul_length_groups_le hwell hapart hstems
      (Desk.two_le_length_names_run ch window s hbatches)

/-- Three groups and a lone outage are pending; the message about another lone outage was lost and
has left nothing. When two more targets go down, the first group is too old, the second has a member
among them, and the third survives. When the lone one goes down again at another address, it is known
there. -/
theorem consistent_run_three_groups :
    let down (name : String) (ms : Int) : Event :=
      ⟨.down, name, "10.0.0.1", 8080, .stateChange, .atMillis ms⟩
    let lone (address : String) (port : UInt16) (ms : Int) : Event :=
      ⟨.down, "h", address, port, .stateChange, .atMillis ms⟩
    let batches := [[down "b" 0, down "a" 0], [down "c" 10000, down "d" 9000],
      [down "e" 12000, down "f" 12000], [down "i" 12500], [lone "10.0.0.2" 443 13000]]
    let events := [down "g" 36000, down "c" 35000]
    let again := [lone "10.0.0.3" 8443 20000]
    let window := Span.ofSeconds 30
    let script : Script := { sends := [.delivered, .delivered, .delivered, .lost] }
    let d := Desk.run Script.channel window script batches
    let renewed (now : Int) (events : List Event) : Prop :=
      Renewal window (ofCategory events .outage) (.atMillis now)
        (afterEdits Script.channel window d.channel d.pending events)
        (d.tell Script.channel window events)
    (∀ batch ∈ batches, (batch.map Event.target).Nodup) ∧
      IsLatest (.atMillis 36000) (ofCategory events .outage) ∧
      IsLatest (.atMillis 20000) (ofCategory again .outage) ∧
      d.pending.singles = [("h", ⟨103, .atMillis 13000, .stateChange, "10.0.0.2", 443⟩)] ∧
      d.pending.groups = [
        ⟨100, .stateChange, .atMillis 0, [("b", down "b" 0), ("a", down "a" 0)]⟩,
        ⟨101, .stateChange, .atMillis 10000, [("d", down "d" 9000), ("c", down "c" 10000)]⟩,
        ⟨102, .stateChange, .atMillis 12000, [("f", down "f" 12000), ("e", down "e" 12000)]⟩] ∧
      d.notices[3]? = some ⟨.sendTracked (Alert.groupText [down "i" 12500]) .failed,
        [down "i" 12500]⟩ ∧
      d.notices[4]? = some ⟨.sendTracked (Alert.groupText [lone "10.0.0.2" 443 13000]) (.tracked 103),
        [lone "10.0.0.2" 443 13000]⟩ ∧
      (d.tell Script.channel window events).pending.singles = d.pending.singles ∧
      (d.tell Script.channel window events).pending.groups.map PendingGroup.messageId = [102, 104] ∧
      (d.tell Script.channel window again).pending.singles =
        [("h", ⟨104, .atMillis 20000, .stateChange, "10.0.0.3", 8443⟩)] ∧
      (d.tell Script.channel window again).pending.groups = d.pending.groups ∧
      d.Consistent ∧ renewed 36000 events ∧ renewed 20000 again ∧ d.Bounded := by
  intro down lone batches events again window script d renewed
  have hbatches : ∀ batch ∈ batches, (batch.map Event.target).Nodup := by decide
  have hevents : IsLatest (.atMillis 36000) (ofCategory events .outage) :=
    ⟨⟨down "g" 36000, by decide, rfl⟩, by decide⟩
  have hagain : IsLatest (.atMillis 20000) (ofCategory again .outage) :=
    ⟨⟨lone "10.0.0.3" 8443 20000, by decide, rfl⟩, by decide⟩
  obtain ⟨hconsistent, hrenewal, hbounded⟩ := consistent_run Script.channel window script batches
  exact ⟨hbatches, hevents, hagain, by decide +kernel, by decide +kernel, by decide +kernel,
    by decide +kernel, by decide +kernel, by decide +kernel, by decide +kernel, by decide +kernel,
    hconsistent, hrenewal events _ hevents, hrenewal again _ hagain, hbounded hbatches⟩

end Uptime
