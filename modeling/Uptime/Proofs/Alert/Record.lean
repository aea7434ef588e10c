import Uptime.Proofs.Alert.Announcements

/-!
# Pending records

A pending message is held in one of two collections, according to whether it is about one
target or about several. Here both are read as one list of records, each of which names
targets.

## Main definitions

* `Pending.WellFormed`: the maps of a pending state are maps.
* `PendingRecord`: a pending message of either kind.
* `Pending.naming`: the records that name a target.
* `PendingRecord.ofOutages`, `PendingRecord.ofReceipt`: the record of a message about some outages.

## Main results

* `Pending.wellFormed_deliver`: every batch keeps maps maps.
* `Pending.naming_announced`: the records that name a target which is down again.
* `Pending.naming_announced_sublist`: the records that name any other target.
-/

namespace Uptime

variable {σ : Type}

/-- The maps of a pending state are maps: no name has two entries. -/
structure Pending.WellFormed (p : Pending) : Prop where
  singles : p.singles.names.Nodup
  groups : ∀ g ∈ p.groups, g.targets.names.Nodup

/-- A pending message. -/
inductive PendingRecord
  /-- A message about one target. -/
  | single (target : String) (record : PendingSingle)
  /-- A message about several targets. -/
  | group (record : PendingGroup)
  deriving DecidableEq, Repr

namespace PendingRecord

/-- The targets that a record names. -/
def names : PendingRecord → List String
  | single target _ => [target]
  | group g => g.targets.names

/-- The record of a message about some outages, which are in the order of names. -/
def ofOutages (id : MessageId) : List Event → List PendingRecord
  | [] => []
  | [e] => [single e.target ⟨id, e.occurred, e.reason, e.address, e.port⟩]
  | e :: es => [group ⟨id, e.reason, e.occurred, eventsByTarget (e :: es)⟩]

/-- The records of a message about some outages that was answered by `receipt`. Without a number
there are none. -/
def ofReceipt (receipt : Receipt) (outages : List Event) : List PendingRecord :=
  receipt.id?.toList.flatMap (ofOutages · outages)

end PendingRecord

namespace Pending

/-- All pending messages. -/
def records (p : Pending) : List PendingRecord :=
  p.singles.map (fun entry => .single entry.1 entry.2) ++ p.groups.map .group

/-- The pending messages that name a target. -/
def naming (p : Pending) (target : String) : List PendingRecord :=
  p.records.filter fun r => target ∈ r.names

/-- The messages about one target alone that name it. -/
def singlesNaming (p : Pending) (target : String) : List PendingRecord :=
  (p.singles.filter fun entry => entry.1 = target).map fun entry => .single entry.1 entry.2

theorem naming_eq (p : Pending) (target : String) :
    p.naming target = p.singlesNaming target ++
      (p.groups.filter fun g => target ∈ g.targets.names).map .group := by
  rw [naming, records, singlesNaming, List.filter_append, List.filter_map, List.filter_map]
  congr 2
  refine List.filter_congr fun entry _ => ?_
  simp [PendingRecord.names, eq_comm]

/-- In a map there is at most one of them. -/
theorem singlesNaming_eq_toList {p : Pending} (hp : p.WellFormed) (target : String) :
    p.singlesNaming target = (p.singles.find? target).toList.map (.single target) := by
  rw [singlesNaming, NameMap.filter_eq_toList hp.singles, List.map_map]
  rfl

/-! ### What a batch does to the records -/

theorem singles_edited_sublist (p : Pending) (window : Span) (events left : List Event) :
    (p.edited window events left).singles.Sublist p.singles := by
  rw [edited, consume]
  exact List.foldlRecOn (motive := (List.Sublist · p.singles)) _ _ (.refl _) fun m hm e _ =>
    List.filter_sublist.trans hm

theorem groups_edited_sublist (p : Pending) (window : Span) (events left : List Event) :
    (p.edited window events left).groups.Sublist p.groups :=
  p.unanswered_sublist window left

theorem groups_supersede_sublist (p : Pending) (outages : List Event) (now : Instant)
    (window : Span) : (p.supersede outages now window).groups.Sublist p.groups :=
  List.filter_sublist

theorem WellFormed.edited {p : Pending} (hp : p.WellFormed) (window : Span)
    (events left : List Event) : (p.edited window events left).WellFormed where
  singles := hp.singles.sublist ((p.singles_edited_sublist window events left).map _)
  groups g hg := hp.groups g ((p.groups_edited_sublist window events left).subset hg)

theorem WellFormed.supersede {p : Pending} (hp : p.WellFormed) (outages : List Event)
    (now : Instant) (window : Span) : (p.supersede outages now window).WellFormed where
  singles := hp.singles
  groups g hg := hp.groups g ((p.groups_supersede_sublist outages now window).subset hg)

theorem WellFormed.record {p : Pending} (hp : p.WellFormed) (id : MessageId)
    (outages : List Event) : (p.record id outages).WellFormed := by
  match outages with
  | [] => exact hp
  | [e] => exact ⟨NameMap.nodup_names_insert hp.singles _ _, hp.groups⟩
  | e :: e' :: es =>
    refine ⟨hp.singles, fun g hg => ?_⟩
    rcases List.mem_append.mp hg with hg | hg
    · exact hp.groups g hg
    · obtain rfl := List.mem_singleton.mp hg
      exact nodup_names_eventsByTarget _

theorem WellFormed.announced {p : Pending} (hp : p.WellFormed) (window : Span)
    (receipt : Receipt) (outages : List Event) :
    (p.announced window receipt outages).WellFormed := by
  match outages with
  | [] => exact hp
  | e :: es =>
    cases receipt with
    | tracked id => exact (hp.supersede _ _ _).record id _
    | failed => exact hp.supersede _ _ _
    | untracked => exact hp.supersede _ _ _

/-- Every batch keeps maps maps. -/
theorem wellFormed_deliver {p : Pending} (hp : p.WellFormed) (ch : Channel σ) (window : Span)
    (s : σ) (events : List Event) : (deliver ch window s p events).pending.WellFormed := by
  obtain ⟨_, left, _, _, receipt, _, _, -, -, -, heq⟩ := deliver_eq ch window s p events
  rw [heq]
  exact (hp.edited window events left).announced window receipt _

/-! ### Targets that are down again -/

/-- No older group that survives new outages names one of their targets. -/
theorem filter_groups_supersede (p : Pending) {outages : List Event} {target : String}
    (h : target ∈ outages.map Event.target) (now : Instant) (window : Span) :
    ((p.supersede outages now window).groups.filter fun g => target ∈ g.targets.names) = [] := by
  refine List.filter_eq_nil_iff.mpr fun g hg hname => ?_
  obtain ⟨e, he, rfl⟩ := List.mem_map.mp h
  have hfree : g.targets.contains e.target = false := by
    have hkept := (List.mem_filter.mp hg).2
    simp only [decide_eq_true_eq] at hkept
    exact hkept.2 e he
  exact NameMap.contains_eq_false_iff.mp hfree (by simpa using hname)

/-- A message about one target replaces the one that was pending. -/
theorem naming_record_single (p : Pending) (id : MessageId) (e : Event)
    (hgone : (p.groups.filter fun g => e.target ∈ g.targets.names) = []) :
    (p.record id [e]).naming e.target = PendingRecord.ofOutages id [e] := by
  have hsingles : (p.record id [e]).singlesNaming e.target =
      [.single e.target (.ofEvent id e)] := by
    rw [singlesNaming, record, NameMap.filter_insert_self]
    rfl
  have hgroups : ((p.record id [e]).groups.filter fun g => e.target ∈ g.targets.names) = [] := hgone
  rw [naming_eq, hsingles, hgroups]
  rfl

/-- A message about several targets is added to those that are pending. -/
theorem naming_record_group (p : Pending) (id : MessageId) {e e' : Event} {es : List Event}
    {target : String} (h : target ∈ (e :: e' :: es).map Event.target)
    (hgone : (p.groups.filter fun g => target ∈ g.targets.names) = []) :
    (p.record id (e :: e' :: es)).naming target =
      p.singlesNaming target ++ PendingRecord.ofOutages id (e :: e' :: es) := by
  have hgroups : ((p.record id (e :: e' :: es)).groups.filter fun g => target ∈ g.targets.names) =
      [⟨id, e.reason, e.occurred, eventsByTarget (e :: e' :: es)⟩] := by
    have hnamed : target ∈ (eventsByTarget (e :: e' :: es)).names := mem_names_eventsByTarget.mpr h
    change (p.groups ++ [_]).filter _ = _
    rw [List.filter_append, hgone, List.nil_append, List.filter_cons_of_pos (by simpa using hnamed)]
    rfl
  rw [naming_eq, hgroups]
  rfl

/-- **The records that name a target which is down again.** Older groups are gone; an older
message about the target alone remains unless the new message replaces it, for which that has
to be about this target alone too and to have a number. -/
theorem naming_announced (p : Pending) (window : Span) (receipt : Receipt) {outages : List Event}
    {target : String} (h : target ∈ outages.map Event.target) :
    (p.announced window receipt outages).naming target =
      (if outages.length = 1 ∧ receipt.id?.isSome then [] else p.singlesNaming target) ++
        PendingRecord.ofReceipt receipt outages := by
  rw [PendingRecord.ofReceipt]
  cases outages with
  | nil => simp at h
  | cons e es =>
    -- the groups are gone before the message is sent, whatever becomes of it
    have hgone := p.filter_groups_supersede h (Consolidation.lastOccurred e es) window
    cases receipt with
    | failed => simp [announced, naming_eq, hgone, Receipt.id?]; rfl
    | untracked => simp [announced, naming_eq, hgone, Receipt.id?]; rfl
    | tracked id =>
      cases es with
      | nil =>
        obtain rfl : target = e.target := by simpa using h
        rw [announced, naming_record_single _ id e hgone]
        simp [Receipt.id?]
      | cons e' es =>
        rw [announced, naming_record_group _ id h hgone]
        simp [Receipt.id?]
        rfl

/-! ### Other targets -/

theorem naming_sublist {p q : Pending} (hsingles : q.singles.Sublist p.singles)
    (hgroups : q.groups.Sublist p.groups) (target : String) :
    (q.naming target).Sublist (p.naming target) :=
  ((hsingles.map _).append (hgroups.map _)).filter _

theorem naming_edited_sublist (p : Pending) (window : Span) (events left : List Event)
    (target : String) : ((p.edited window events left).naming target).Sublist (p.naming target) :=
  naming_sublist (p.singles_edited_sublist window events left)
    (p.groups_edited_sublist window events left) target

theorem naming_record_of_notMem (p : Pending) (id : MessageId) {outages : List Event}
    {target : String} (h : target ∉ outages.map Event.target) :
    (p.record id outages).naming target = p.naming target := by
  rw [naming_eq, naming_eq]
  match outages with
  | [] => rfl
  | [e] =>
    have hne : e.target ≠ target := fun heq => h (by simp [heq])
    have hsingles : ((p.singles.insert e.target (.ofEvent id e)).filter fun entry =>
        entry.1 = target) = p.singles.filter fun entry => entry.1 = target := by
      rw [NameMap.insert, List.filter_cons_of_neg (by simpa using hne), NameMap.erase,
        List.filter_filter]
      refine List.filter_congr fun entry _ => ?_
      by_cases hentry : entry.1 = target <;> simp [hentry, hne.symm]
    rw [singlesNaming, singlesNaming, record, hsingles]
  | e :: e' :: es =>
    have hfree : target ∉ (eventsByTarget (e :: e' :: es)).names :=
      fun hname => h (mem_names_eventsByTarget.mp hname)
    change _ ++ ((p.groups ++ [_]).filter _).map _ = _
    rw [List.filter_append, List.filter_cons_of_neg (by simpa using hfree), List.filter_nil,
      List.append_nil]
    rfl

/-- A message about other targets adds no record that names this one. -/
theorem naming_announced_sublist (p : Pending) (window : Span) (receipt : Receipt)
    {outages : List Event} {target : String} (h : target ∉ outages.map Event.target) :
    ((p.announced window receipt outages).naming target).Sublist (p.naming target) := by
  match outages with
  | [] => exact .refl _
  | e :: es =>
    let older := p.supersede (e :: es) (Consolidation.lastOccurred e es) window
    have holder : (older.naming target).Sublist (p.naming target) :=
      naming_sublist (p := p) (q := older) (.refl _) (p.groups_supersede_sublist _ _ _) target
    cases receipt with
    | failed => exact holder
    | untracked => exact holder
    | tracked id =>
      rw [announced, naming_record_of_notMem _ id h]
      exact holder

end Pending

end Uptime
