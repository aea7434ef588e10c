import Mathlib.Data.List.Basic
import Uptime.Proofs.Alert.Supersession

/-!
# The call that a record stems from

A pending record was left by one call: one that asked for the number of a message about outages and
got it. Numbers alone do not tell which call that was, since nothing keeps a channel from giving a
number twice. But a record gives way to later calls about its targets. So the call that it stems
from is the one that could have left it and after which no other has displaced it, and there is
only one such call.

## Main definitions

* `PendingRecord.messageId`: the number of the message of a record.
* `Notice.Leaves`: a call leaves a record.
* `Notice.Displaces`: a record gives way to a call.
* `PendingRecord.IsOrigin`: the place of the call that a record stems from.

## Main results

* `of_mem_records_deliver`: what is pending after a batch.
* `Desk.existsUnique_isOrigin_run`: every record stems from one call.
-/

namespace Uptime

variable {σ : Type}

/-- The number of the message of a record. -/
def PendingRecord.messageId : PendingRecord → MessageId
  | single _ q => q.messageId
  | group g => g.messageId

/-- A call that asks for the number of a message about outages and gets it leaves the record of
the message. -/
def Notice.Leaves (n : Notice) (r : PendingRecord) : Prop :=
  ∃ id, n.call = .sendTracked (Alert.groupText n.events) (.tracked id) ∧
    r ∈ PendingRecord.ofOutages id n.events

/-- A record gives way to a call: one about a single target to a call that leaves a record of the
same target, one about a group to any message about outages of its members. -/
def Notice.Displaces (n : Notice) : PendingRecord → Prop
  | .single target _ => ∃ q, n.Leaves (.single target q)
  | .group g => n.call.isTracked = true ∧ ∃ e ∈ n.events, e.target ∈ g.targets.names

namespace PendingRecord

variable {id : MessageId} {outages : List Event} {r : PendingRecord}

theorem messageId_of_mem_ofOutages (h : r ∈ ofOutages id outages) : r.messageId = id := by
  match outages with
  | [] => cases h
  | [e] => rw [List.mem_singleton.mp h]; rfl
  | e :: e' :: es => rw [List.mem_singleton.mp h]; rfl

/-- A record names the targets of the events that are told. -/
theorem mem_names_of_mem_ofOutages (h : r ∈ ofOutages id outages) {name : String} :
    name ∈ r.names ↔ name ∈ outages.map Event.target := by
  match outages with
  | [] => cases h
  | [e] => rw [List.mem_singleton.mp h]; exact Iff.rfl
  | e :: e' :: es => rw [List.mem_singleton.mp h]; exact mem_names_eventsByTarget

end PendingRecord

namespace Notice

variable {n : Notice} {r : PendingRecord}

/-- The message of a record has the number that was asked for. -/
theorem Leaves.call_eq (h : n.Leaves r) :
    n.call = .sendTracked (Alert.groupText n.events) (.tracked r.messageId) := by
  obtain ⟨id, hcall, hr⟩ := h
  rw [hcall, PendingRecord.messageId_of_mem_ofOutages hr]

theorem Leaves.isTracked (h : n.Leaves r) : n.call.isTracked = true := by
  rw [h.call_eq]
  rfl

theorem Leaves.mem_names_iff (h : n.Leaves r) {name : String} :
    name ∈ r.names ↔ name ∈ n.events.map Event.target := by
  obtain ⟨id, -, hr⟩ := h
  exact PendingRecord.mem_names_of_mem_ofOutages hr

/-- A record gives way to a call that leaves it again. -/
theorem Leaves.displaces (h : n.Leaves r) : n.Displaces r := by
  cases r with
  | single target q => exact ⟨q, h⟩
  | group g =>
    refine ⟨h.isTracked, ?_⟩
    obtain ⟨id, -, hr⟩ := h
    have hne : n.events ≠ [] := fun hnil => by rw [hnil] at hr; cases hr
    obtain ⟨e, he⟩ := List.exists_mem_of_ne_nil _ hne
    exact ⟨e, he, (PendingRecord.mem_names_of_mem_ofOutages hr).mpr (List.mem_map_of_mem he)⟩

/-- A call that does not ask for a number displaces nothing. -/
theorem not_displaces (h : n.call.isTracked = false) (r : PendingRecord) : ¬ n.Displaces r := by
  cases r with
  | single target q =>
    rintro ⟨q', hleaves⟩
    rw [hleaves.isTracked] at h
    cases h
  | group g =>
    rintro ⟨htracked, -⟩
    rw [htracked] at h
    cases h

end Notice

/-! ### What is pending after a batch -/

/-- The call that tells of some outages. -/
def Notice.ofOutages (receipt : Receipt) (outages : List Event) : Notice :=
  ⟨.sendTracked (Alert.groupText outages) receipt, outages⟩

theorem Notice.leaves_ofOutages_iff {receipt : Receipt} {outages : List Event} {r : PendingRecord} :
    (ofOutages receipt outages).Leaves r ↔
      ∃ id, receipt = .tracked id ∧ r ∈ PendingRecord.ofOutages id outages := by
  simp [Leaves, ofOutages]

namespace Pending

variable {p : Pending} {window : Span} {receipt : Receipt} {outages : List Event}

theorem of_mem_singles_record {id : MessageId} {target : String} {q : PendingSingle}
    (h : (target, q) ∈ (p.record id outages).singles) :
    ((target, q) ∈ p.singles ∧ ∀ q', .single target q' ∉ PendingRecord.ofOutages id outages) ∨
      .single target q ∈ PendingRecord.ofOutages id outages := by
  match outages with
  | [] => exact .inl ⟨h, fun _ => List.not_mem_nil⟩
  | [e] =>
    rcases NameMap.mem_insert.mp h with heq | ⟨hold, hne⟩
    · obtain ⟨rfl, rfl⟩ := Prod.mk.inj heq
      exact .inr List.mem_cons_self
    · refine .inl ⟨hold, fun q' hq' => hne ?_⟩
      obtain ⟨htarget, -⟩ := PendingRecord.single.inj (List.mem_singleton.mp hq')
      exact htarget
  | e :: e' :: es => exact .inl ⟨h, fun q' hq' => by cases List.mem_singleton.mp hq'⟩

theorem of_mem_groups_record {id : MessageId} {g : PendingGroup}
    (h : g ∈ (p.record id outages).groups) :
    g ∈ p.groups ∨ .group g ∈ PendingRecord.ofOutages id outages := by
  match outages with
  | [] => exact .inl h
  | [_] => exact .inl h
  | e :: e' :: es =>
    rcases List.mem_append.mp h with hold | hnew
    · exact .inl hold
    · rw [List.mem_singleton.mp hnew]
      exact .inr List.mem_cons_self

/-- A group that survives new outages has no member among them. -/
theorem not_displaces_of_mem_supersede {now : Instant} {g : PendingGroup}
    (h : g ∈ (p.supersede outages now window).groups) :
    ¬ (Notice.ofOutages receipt outages).Displaces (.group g) := by
  rintro ⟨-, e, he, hname⟩
  have hgone := p.filter_groups_supersede (List.mem_map_of_mem he) now window
  exact List.filter_eq_nil_iff.mp hgone g h (by simpa using hname)

/-- **A record that is pending after the message about outages** is an older one that has not given
way to it, or its own. -/
theorem of_mem_records_announced {r : PendingRecord}
    (h : r ∈ (p.announced window receipt outages).records) :
    (r ∈ p.records ∧ ¬ (Notice.ofOutages receipt outages).Displaces r) ∨
      (Notice.ofOutages receipt outages).Leaves r := by
  cases outages with
  | nil =>
    refine .inl ⟨h, ?_⟩
    cases r with
    | single target q =>
      simp [Notice.Displaces, Notice.leaves_ofOutages_iff, PendingRecord.ofOutages]
    | group g => simp [Notice.Displaces, Notice.ofOutages]
  | cons e es =>
    let older := p.supersede (e :: es) (Consolidation.lastOccurred e es) window
    cases r with
    | single target q =>
      rw [mem_records_single] at h
      cases receipt with
      | tracked id =>
        rcases of_mem_singles_record (p := older) h with ⟨hold, hnone⟩ | hnew
        · refine .inl ⟨mem_records_single.mpr hold, ?_⟩
          rintro ⟨q', hq'⟩
          obtain ⟨id', hid, hmem⟩ := Notice.leaves_ofOutages_iff.mp hq'
          cases hid
          exact hnone q' hmem
        · exact .inr (Notice.leaves_ofOutages_iff.mpr ⟨id, rfl, hnew⟩)
      | failed | untracked =>
        refine .inl ⟨mem_records_single.mpr h, ?_⟩
        rintro ⟨q', hq'⟩
        obtain ⟨id', hid, -⟩ := Notice.leaves_ofOutages_iff.mp hq'
        cases hid
    | group g =>
      rw [mem_records_group] at h
      have holder : g ∈ older.groups → PendingRecord.group g ∈ p.records ∧
          ¬ (Notice.ofOutages receipt (e :: es)).Displaces (.group g) := fun hg =>
        ⟨mem_records_group.mpr ((p.groups_supersede_sublist _ _ _).subset hg),
          not_displaces_of_mem_supersede hg⟩
      cases receipt with
      | tracked id =>
        rcases of_mem_groups_record (p := older) h with hold | hnew
        · exact .inl (holder hold)
        · exact .inr (Notice.leaves_ofOutages_iff.mpr ⟨id, rfl, hnew⟩)
      | failed | untracked => exact .inl (holder h)

end Pending

/-- What is pending after a batch: records that no call of the batch has displaced, and the one that
the message about outages leaves. -/
theorem of_mem_records_deliver {ch : Channel σ} {window : Span} {s : σ} {p : Pending}
    {events : List Event} {r : PendingRecord}
    (h : r ∈ (deliver ch window s p events).pending.records) :
    (r ∈ p.records ∧ ∀ n ∈ (deliver ch window s p events).notices, ¬ n.Displaces r) ∨
      ∃ before n after, (deliver ch window s p events).notices = before ++ n :: after ∧
        n.Leaves r ∧ (∀ e ∈ n.events, e ∈ events ∧ e.category = .outage) ∧
        ∀ m ∈ after, ¬ m.Displaces r := by
  obtain ⟨singles, left, grouped, rest, receipt, nss, t, hsingles, hgrouped, hnss, heq⟩ :=
    deliver_eq ch window s p events
  have htracked := filter_isTracked_of_passes hsingles hgrouped hnss
  rw [heq] at h ⊢
  dsimp only at h ⊢
  generalize singles ++ grouped ++ nss.flatten = notices at *
  have hedited := (p.records_edited_sublist window events left).subset
  by_cases hnil : ofCategory events .outage = []
  · -- without outages no call asks for a number
    rw [hnil] at h
    rw [outageNotices, if_pos hnil, List.filter_eq_nil_iff] at htracked
    refine .inl ⟨hedited h, fun n hn => Notice.not_displaces (by simpa using htracked n hn) r⟩
  · rw [outageNotices, if_neg hnil, List.filter_eq_cons_iff] at htracked
    obtain ⟨before, after, rfl, hbefore, -, hafter⟩ := htracked
    rw [List.filter_eq_nil_iff] at hafter
    have hbefore' : ∀ m ∈ before, ¬ m.Displaces r := fun m hm =>
      Notice.not_displaces (by simpa using hbefore m hm) r
    have hafter' : ∀ m ∈ after, ¬ m.Displaces r := fun m hm =>
      Notice.not_displaces (by simpa using hafter m hm) r
    rcases Pending.of_mem_records_announced h with ⟨hold, hkept⟩ | hnew
    · refine .inl ⟨hedited hold, fun n hn => ?_⟩
      rcases List.mem_append.mp hn with hn | hn
      · exact hbefore' n hn
      · rcases List.mem_cons.mp hn with rfl | hn
        · exact hkept
        · exact hafter' n hn
    · exact .inr ⟨before, _, after, rfl, hnew, fun e he => mem_ofCategory.mp he, hafter'⟩

/-! ### Runs -/

namespace PendingRecord

/-- The record `r` stems from the call at place `i`: that call tells of outages and leaves the
record, and no later call displaces it. -/
def IsOrigin (r : PendingRecord) (notices : List Notice) (i : Nat) : Prop :=
  ∃ n after, notices.drop i = n :: after ∧ n.Leaves r ∧ (∀ e ∈ n.events, e.category = .outage) ∧
    ∀ m ∈ after, ¬ m.Displaces r

variable {r : PendingRecord} {notices : List Notice} {i j : Nat}

/-- Further calls do not change where a record stems from unless they displace it. -/
theorem IsOrigin.append (h : r.IsOrigin notices i) {more : List Notice}
    (hmore : ∀ m ∈ more, ¬ m.Displaces r) : r.IsOrigin (notices ++ more) i := by
  obtain ⟨n, after, hdrop, hleaves, houtages, hafter⟩ := h
  have hlength : i ≤ notices.length := by
    by_contra hlong
    rw [List.drop_eq_nil_of_le (by omega)] at hdrop
    cases hdrop
  refine ⟨n, after ++ more, ?_, hleaves, houtages, fun m hm => ?_⟩
  · rw [List.drop_append_of_le_length hlength, hdrop, List.cons_append]
  · exact (List.mem_append.mp hm).elim (hafter m) (hmore m)

/-- No record stems from a call after the one from which it stems. -/
private theorem IsOrigin.not_before (h : r.IsOrigin notices i) (h' : r.IsOrigin notices j) :
    ¬ i < j := by
  intro hlt
  obtain ⟨n, after, hdrop, -, -, hafter⟩ := h
  obtain ⟨n', after', hdrop', hleaves', -, -⟩ := h'
  -- the later call is one of those that have not displaced the record
  have hsuffix : notices.drop j = after.drop (j - i - 1) := by
    rw [show j = i + ((j - i - 1) + 1) by omega, ← List.drop_drop, hdrop, List.drop_succ_cons]
    congr 1
    omega
  have hmem : n' ∈ after := by
    refine List.mem_of_mem_drop (i := j - i - 1) ?_
    rw [← hsuffix, hdrop']
    exact List.mem_cons_self
  exact hafter n' hmem hleaves'.displaces

theorem IsOrigin.eq (h : r.IsOrigin notices i) (h' : r.IsOrigin notices j) : i = j :=
  le_antisymm (not_lt.mp (h'.not_before h)) (not_lt.mp (h.not_before h'))

end PendingRecord

/-- **Every record stems from one call.** -/
theorem Desk.existsUnique_isOrigin_run (ch : Channel σ) (window : Span) (s : σ)
    (batches : List (List Event)) :
    ∀ r ∈ (run ch window s batches).pending.records,
      ∃! i, r.IsOrigin (run ch window s batches).notices i := by
  have hexists : ∀ r ∈ (run ch window s batches).pending.records,
      ∃ i, r.IsOrigin (run ch window s batches).notices i := by
    refine run_induction (P := fun d => ∀ r ∈ d.pending.records, ∃ i, r.IsOrigin d.notices i)
      (fun r hr => absurd hr List.not_mem_nil) fun d events _ h r hr => ?_
    rcases of_mem_records_deliver hr with ⟨hold, hkept⟩ |
        ⟨before, n, after, hnotices, hleaves, houtages, hafter⟩
    · obtain ⟨i, hi⟩ := h r hold
      exact ⟨i, hi.append hkept⟩
    · refine ⟨(d.notices ++ before).length, n, after, ?_, hleaves, fun e he => (houtages e he).2,
        hafter⟩
      change (d.notices ++ (deliver ch window d.channel d.pending events).notices).drop _ = _
      rw [hnotices, ← List.append_assoc, List.drop_left]
  intro r hr
  obtain ⟨i, hi⟩ := hexists r hr
  exact ⟨i, hi, fun j hj => hj.eq hi⟩

end Uptime
