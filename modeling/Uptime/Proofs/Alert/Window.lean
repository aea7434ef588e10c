import Mathlib.Data.List.Pairwise
import Uptime.Proofs.Alert.Resolution
import Uptime.Proofs.Alert.Supersession

/-!
# The window and the outages of a group

How long after its own outage a recovery can still be told by an edit. The window of a record
is counted from one instant. For a message about one target that is its outage; for a message
about a group it is the outage of the member that comes first in the order of names. A member
that went down earlier than that one has more time than the window to come back.

## Main definitions

* `PendingRecord.downAt`: the instant from which the window of a record is counted.
* `PendingRecord.downAtOf`: the outage of one target, as the edited text tells it.
* `EditInWindow`: what is known of an edit.

## Main results

* `Desk.countedFromFirst_run`: from where the window of a record is counted.
* `exists_group_mem_notices`: a group that comes back in time is told by an edit.
* `editInWindow_run`: all edits of a run, and when those of a group are all in time.
-/

namespace Uptime

variable {σ : Type}

namespace PendingRecord

/-- The instant from which the window of a record is counted. -/
def downAt : PendingRecord → Instant
  | single _ q => q.downAt
  | group g => g.downAt

/-- The outage of a target according to a record. -/
def downAtOf : PendingRecord → String → Instant
  | single _ q, _ => q.downAt
  | group g, target => g.downAtOf target

/-- A notice edits the message of a record. -/
inductive EditedBy : PendingRecord → Notice → Prop
  /-- One recovery is told. -/
  | single {e : Event} {q : PendingSingle} (ok : Bool) :
      EditedBy (.single e.target q) (.single e q ok)
  /-- A whole group is told. -/
  | group {g : PendingGroup} {es : List Event} (ok : Bool)
      (hnames : g.targets.names.toFinset = (es.map Event.target).toFinset) :
      EditedBy (.group g) (.group es g ok)

/-- The window of a record is counted from the outage of the first of its targets, in the order
of names. -/
def CountedFromFirst (r : PendingRecord) : Prop :=
  ∃ first ∈ r.names, (∀ name ∈ r.names, first ≤ name) ∧ r.downAt = r.downAtOf first

theorem countedFromFirst_single (target : String) (q : PendingSingle) :
    (single target q).CountedFromFirst := by
  refine ⟨target, List.mem_cons_self, fun name hname => ?_, rfl⟩
  rw [List.mem_singleton.mp hname]

/-- The events of a message are in the order of names, and the first one gives its time. -/
theorem countedFromFirst_ofOutages {id : MessageId} {outages : List Event} {r : PendingRecord}
    (hsorted : outages.Pairwise fun a b => a.target ≤ b.target)
    (hd : (outages.map Event.target).Nodup) (hr : r ∈ ofOutages id outages) :
    r.CountedFromFirst := by
  match outages with
  | [] => exact absurd hr List.not_mem_nil
  | [e] =>
    obtain rfl := List.mem_singleton.mp hr
    exact countedFromFirst_single _ _
  | e :: e' :: es =>
    obtain rfl := List.mem_singleton.mp hr
    have hfirst : (e.target, e) ∈ eventsByTarget (e :: e' :: es) :=
      (mem_eventsByTarget_iff hd).mpr ⟨List.mem_cons_self, rfl⟩
    have hfind : (eventsByTarget (e :: e' :: es)).find? e.target = some e :=
      NameMap.find?_of_mem (nodup_names_eventsByTarget _) hfirst
    refine ⟨e.target, NameMap.mem_names_of_mem hfirst, fun name hname => ?_, ?_⟩
    · obtain ⟨o, ho, rfl⟩ := List.mem_map.mp (mem_names_eventsByTarget.mp hname)
      rcases List.mem_cons.mp ho with rfl | ho
      · exact le_refl _
      · exact (List.pairwise_cons.mp hsorted).1 o ho
    · simp only [downAt, downAtOf, PendingGroup.downAtOf, hfind]

/-- What a record says about the outage of one of its targets comes from an event. -/
theorem StemsFrom.exists_outage {events : List Event} {r : PendingRecord}
    (h : r.StemsFrom events) {name : String} (hname : name ∈ r.names) :
    ∃ o ∈ events, o.category = .outage ∧ o.target = name ∧ r.downAtOf name = o.occurred := by
  cases r with
  | single target q =>
    obtain rfl := List.mem_singleton.mp hname
    obtain ⟨o, ho, hcategory, htarget, hq⟩ := h
    exact ⟨o, ho, hcategory, htarget, by rw [downAtOf, hq]⟩
  | group g =>
    obtain ⟨o, hfind⟩ := Option.isSome_iff_exists.mp (NameMap.contains_iff.mpr hname)
    obtain ⟨ho, hcategory, htarget⟩ := h _ (NameMap.mem_of_find? hfind)
    refine ⟨o, ho, hcategory, htarget, ?_⟩
    simp only [downAtOf, PendingGroup.downAtOf, hfind]

end PendingRecord

/-- In a run on batches whose events are about different targets, every window is counted from
the outage of the first target. -/
theorem Desk.countedFromFirst_run (ch : Channel σ) (window : Span) (s : σ)
    {batches : List (List Event)}
    (hbatches : ∀ batch ∈ batches, (batch.map Event.target).Nodup) :
    ∀ r ∈ (run ch window s batches).pending.records, r.CountedFromFirst := by
  refine run_induction (P := fun d => ∀ r ∈ d.pending.records, r.CountedFromFirst)
    (fun r hr => absurd hr List.not_mem_nil) fun d events hevents h r hr => ?_
  rcases mem_records_deliver hr with hold | ⟨id, hnew⟩
  · exact h r hold
  · have hperm : ((ofCategory events .outage).map Event.target).Perm
        ((events.filter fun e => e.category = .outage).map Event.target) :=
      (sortByName_perm _ _).map _
    exact PendingRecord.countedFromFirst_ofOutages (pairwise_sortByName _ _)
      (hperm.nodup_iff.mpr ((hbatches events hevents).sublist (List.filter_sublist.map _))) hnew

/-! ### The edits of a batch -/

theorem Pending.of_recovered_eq_some {p : Pending} {window : Span} {es : List Event}
    {g : PendingGroup} (h : p.recovered window es = some g) :
    es ≠ [] ∧ g ∈ p.groups ∧ g.RecoveredBy es window := by
  rw [recovered] at h
  split at h
  · cases h
  · next hne => exact ⟨hne, List.mem_of_find?_eq_some h, by simpa using List.find?_some h⟩

/-- Every edit of a batch is about a recovery that the record of its target can tell or about
recoveries that bring a group back. -/
theorem exists_of_isEdit {ch : Channel σ} {window : Span} {s : σ} {p : Pending}
    {events : List Event} (hp : p.WellFormed) (hd : (events.map Event.target).Nodup) {n : Notice}
    (hn : n ∈ (deliver ch window s p events).notices) (hedit : n.call.isEdit = true) :
    (∃ e q ok, recordIn p.singles window e = some q ∧ n = .single e q ok) ∨
      ∃ g ∈ p.groups, ∃ es ok, es ≠ [] ∧ g.RecoveredBy es window ∧ n = .group es g ok := by
  obtain ⟨singles, left, grouped, rest, receipt, nss, t, hsingles, hgrouped, hnss, heq⟩ :=
    deliver_eq ch window s p events
  rw [heq] at hn
  have hleft : (left.map Event.target).Nodup :=
    (nodup_recoveries hd).sublist (hsingles.sublist.map _)
  rw [Pending.answering_eq_recovered hp hleft] at hgrouped
  rcases List.mem_append.mp hn with hedits | hfresh
  · rcases List.mem_append.mp hedits with hsingle | hgroup
    · obtain ⟨e, -, q, ok, hrecord, heq⟩ := hsingles.exists_of_mem n hsingle
      exact .inl ⟨e, q, ok, hrecord, heq⟩
    · cases hg : p.recovered window left with
      | none =>
        rw [hg] at hgrouped
        cases hgrouped
        exact absurd hgroup List.not_mem_nil
      | some g =>
        rw [hg] at hgrouped
        cases hgrouped with
        | edited ok =>
          obtain ⟨hne, hmem, hrecovered⟩ := Pending.of_recovered_eq_some hg
          exact .inr ⟨g, hmem, left, ok, hne, hrecovered, List.mem_singleton.mp hgroup⟩
  · rw [isEdit_of_announcements hnss n hfresh] at hedit
    cases hedit

/-- Groups that share no members come back one at a time. -/
theorem Pending.Apart.eq_of_recoveredBy {p : Pending} (hp : p.Apart) {g g' : PendingGroup}
    (hg : g ∈ p.groups) (hg' : g' ∈ p.groups) {es : List Event} (hne : es ≠ [])
    (h : g.targets.names.toFinset = (es.map Event.target).toFinset)
    (h' : g'.targets.names.toFinset = (es.map Event.target).toFinset) : g = g' := by
  by_contra hdiff
  have : Std.Symm fun g g' : PendingGroup => g.targets.names.Disjoint g'.targets.names :=
    ⟨fun _ _ => List.Disjoint.symm⟩
  have hdisjoint : g.targets.names.Disjoint g'.targets.names :=
    List.Pairwise.forall hp hg hg' hdiff
  obtain ⟨e, he⟩ := List.exists_mem_of_ne_nil es hne
  have hmem : e.target ∈ (es.map Event.target).toFinset :=
    List.mem_toFinset.mpr (List.mem_map_of_mem he)
  exact hdisjoint (List.mem_toFinset.mp (h ▸ hmem)) (List.mem_toFinset.mp (h' ▸ hmem))

/-- **A group that comes back in time is told by an edit**, if no member has a message of its
own. -/
theorem exists_group_mem_notices (ch : Channel σ) {window : Span} (s : σ) {p : Pending}
    (hp : p.WellFormed) (hapart : p.Apart) {g : PendingGroup} (hg : g ∈ p.groups)
    {es : List Event} (hne : es ≠ []) (hd : (es.map Event.target).Nodup)
    (hcategory : ∀ e ∈ es, e.category = .recovery)
    (hfree : ∀ e ∈ es, p.singles.find? e.target = none) (hg' : g.RecoveredBy es window) :
    ∃ ok, Notice.group es g ok ∈ (deliver ch window s p es).notices := by
  obtain ⟨singles, left, grouped, rest, receipt, nss, t, hsingles, hgrouped, hnss, heq⟩ :=
    deliver_eq ch window s p es
  have hrecoveries : recoveries es = es :=
    List.filter_eq_self.mpr (by simpa using hcategory)
  rw [hrecoveries] at hsingles
  -- without records the first pass makes no calls and leaves all recoveries
  have hnone : singles = [] := by
    refine List.eq_nil_iff_forall_not_mem.mpr fun n hn => ?_
    obtain ⟨e, he, q, -, hrecord, -⟩ := hsingles.exists_of_mem n hn
    rw [recordIn, hfree e he] at hrecord
    cases hrecord
  have hleft : left = es := by
    rw [hsingles.left_eq hd, hnone, untold]
    exact List.filter_eq_self.mpr (by simp)
  subst hleft
  rw [Pending.answering_eq_recovered hp hd] at hgrouped
  -- the first group that they bring back is this one, as groups share no members
  have hsome : p.recovered window left = some g := by
    rw [Pending.recovered, if_neg hne]
    cases hfind : p.groups.find? fun g => g.RecoveredBy left window with
    | none => exact absurd hg' (by simpa using List.find?_eq_none.mp hfind g hg)
    | some g' =>
      have hrecovered : g'.RecoveredBy left window := by simpa using List.find?_some hfind
      rw [hapart.eq_of_recoveredBy hg (List.mem_of_find?_eq_some hfind) hne hg'.1 hrecovered.1]
  rw [hsome] at hgrouped
  cases hgrouped with
  | edited ok =>
    refine ⟨ok, ?_⟩
    rw [heq]
    exact List.mem_append_left _ (List.mem_append_right _ List.mem_cons_self)

/-! ### Groups whose edits are all in time -/

/-- A recovery within the window after one instant is within it after any later one. -/
private theorem sub_le_of_le {t base own : Instant} {window : Span} (h : t - base ≤ window)
    (hown : base ≤ own) : t - own ≤ window := by
  simp only [Span.le_def, Instant.le_def, Instant.nanos_sub] at *
  omega

namespace PendingGroup

/-- All members of a group come back at the last instant at which this is told by an edit. -/
def lastRecoveries (g : PendingGroup) (window : Span) : List Event :=
  g.targets.names.map fun name => ⟨.recovered, name, "", 0, .stateChange, g.downAt + window⟩

theorem map_target_lastRecoveries (g : PendingGroup) (window : Span) :
    (g.lastRecoveries window).map Event.target = g.targets.names := by
  rw [lastRecoveries, List.map_map]
  exact List.map_id _

theorem of_mem_lastRecoveries {g : PendingGroup} {window : Span} {e : Event}
    (h : e ∈ g.lastRecoveries window) :
    e.target ∈ g.targets.names ∧ e.category = .recovery ∧ e.occurred = g.downAt + window := by
  obtain ⟨name, hname, rfl⟩ := List.mem_map.mp h
  exact ⟨hname, rfl, rfl⟩

theorem recoveredBy_lastRecoveries (g : PendingGroup) (window : Span) :
    g.RecoveredBy (g.lastRecoveries window) window := by
  refine ⟨by rw [map_target_lastRecoveries], fun e he => ?_⟩
  rw [(of_mem_lastRecoveries he).2.2]
  simp only [Span.le_def, Instant.nanos_sub, Instant.nanos_add_span]
  omega

end PendingGroup

/-- **All edits of a group are in time exactly if no member went down before the one that gives
the group its time**, provided that no member has a message of its own. -/
theorem forall_editedBy_iff (ch : Channel σ) (window : Span) (s : σ) {p : Pending}
    (hp : p.WellFormed) (hapart : p.Apart) {g : PendingGroup} (hg : g ∈ p.groups)
    (hfree : ∀ name ∈ g.targets.names, p.singles.find? name = none) :
    (∀ batch, (batch.map Event.target).Nodup → ∀ n ∈ (deliver ch window s p batch).notices,
        (PendingRecord.group g).EditedBy n →
        ∀ e ∈ n.events, e.occurred - g.downAtOf e.target ≤ window) ↔
      ∀ name ∈ g.targets.names, g.downAt ≤ g.downAtOf name := by
  constructor
  · -- at the last instant, a member that went down too early is late
    intro hfast name hname
    let es := g.lastRecoveries window
    have htargets : es.map Event.target = g.targets.names := g.map_target_lastRecoveries window
    obtain ⟨e, he, rfl⟩ : ∃ e ∈ es, e.target = name := by
      rwa [← htargets, List.mem_map] at hname
    have hd : (es.map Event.target).Nodup := by
      rw [htargets]
      exact hp.groups g hg
    obtain ⟨ok, hmem⟩ := exists_group_mem_notices ch s hp hapart hg (List.ne_nil_of_mem he) hd
      (fun e he => (PendingGroup.of_mem_lastRecoveries he).2.1)
      (fun e he => hfree _ (PendingGroup.of_mem_lastRecoveries he).1)
      (g.recoveredBy_lastRecoveries window)
    have hown := hfast es hd _ hmem (.group ok (by rw [htargets])) e he
    rw [(PendingGroup.of_mem_lastRecoveries he).2.2] at hown
    simp only [Span.le_def, Instant.le_def, Instant.nanos_sub, Instant.nanos_add_span] at hown ⊢
    omega
  · intro hfirst batch hd n hn hedited e he
    cases hedited with
    | @group _ es ok hnames =>
      have hmember : ∀ e ∈ es, e.target ∈ g.targets.names := by
        intro e he
        rw [← List.mem_toFinset, hnames, List.mem_toFinset]
        exact List.mem_map_of_mem he
      rcases exists_of_isEdit hp hd hn rfl with ⟨e', q, _, hrecord, heq⟩ |
        ⟨g', hg', es', _, hne, hrecovered, heq⟩
      · -- an edit about this member alone would need a record of it
        obtain rfl : es = [e'] := congrArg Notice.events heq
        rw [recordIn, hfree _ (hmember e' List.mem_cons_self)] at hrecord
        cases hrecord
      · obtain rfl : es = es' := congrArg Notice.events heq
        obtain rfl := hapart.eq_of_recoveredBy hg hg' hne hnames hrecovered.1
        exact sub_le_of_le (hrecovered.2 e he) (hfirst _ (hmember e he))

/-! ### Runs -/

/-- What is known of a notice that edits the message of a record, when the events in `seen` were
told before. -/
structure EditInWindow (seen : List Event) (window : Span) (r : PendingRecord) (n : Notice) :
    Prop where
  editedBy : r.EditedBy n
  /-- The window of the record is counted from the outage of its first target. -/
  countedFromFirst : r.CountedFromFirst
  /-- For each recovery the record knows an outage of its target. -/
  exists_outage : ∀ e ∈ n.events, ∃ o ∈ seen, o.category = .outage ∧ o.target = e.target ∧
    r.downAtOf e.target = o.occurred
  /-- Each recovery lies within the window after the time of the record. -/
  within : ∀ e ∈ n.events, e.occurred - r.downAt ≤ window
  /-- So it lies within the window after its own outage, unless that is older than the time of
  the record. -/
  fast : ∀ e ∈ n.events, r.downAt ≤ r.downAtOf e.target →
    e.occurred - r.downAtOf e.target ≤ window

/-- **Which edits are in time.** In a run on batches whose events are about different targets,
every edit is within the window of its record, and this is the window after the outage of every
member of a group exactly if none went down before the one that gives the group its time. -/
theorem editInWindow_run (ch : Channel σ) (window : Span) (s : σ) {batches : List (List Event)}
    {events : List Event} (hbatches : ∀ batch ∈ batches, (batch.map Event.target).Nodup)
    (hd : (events.map Event.target).Nodup) :
    (∀ n ∈ ((Desk.run ch window s batches).tell ch window events).notices, n.call.isEdit = true →
      ∃ r ∈ (Desk.run ch window s batches).pending.records,
        EditInWindow (Desk.run ch window s batches).events window r n) ∧
    ∀ g ∈ (Desk.run ch window s batches).pending.groups,
      (∀ name ∈ g.targets.names,
        (Desk.run ch window s batches).pending.singles.find? name = none) →
      ((∀ batch, (batch.map Event.target).Nodup →
          ∀ n ∈ ((Desk.run ch window s batches).tell ch window batch).notices,
            (PendingRecord.group g).EditedBy n →
            ∀ e ∈ n.events, e.occurred - g.downAtOf e.target ≤ window) ↔
        ∀ name ∈ g.targets.names, g.downAt ≤ g.downAtOf name) := by
  let d := Desk.run ch window s batches
  have hwell : d.pending.WellFormed := Desk.wellFormed_run ch window s batches
  have hapart : d.pending.Apart := Desk.apart_run ch window s batches
  have hcounted := Desk.countedFromFirst_run ch window s hbatches
  have hstems := Desk.stemsFrom_run ch window s batches
  refine ⟨fun n hn hedit => ?_, fun g hg hfree =>
    forall_editedBy_iff ch window d.channel hwell hapart hg hfree⟩
  rcases exists_of_isEdit hwell hd hn hedit with ⟨e, q, ok, hrecord, rfl⟩ |
      ⟨g, hg, es, ok, hne, hrecovered, rfl⟩
  · obtain ⟨hfind, hin⟩ := Option.filter_eq_some_iff.mp hrecord
    have hmem : PendingRecord.single e.target q ∈ d.pending.records :=
      mem_records_single.mpr (NameMap.mem_of_find? hfind)
    have hwithin : e.occurred - q.downAt ≤ window := by simpa using hin
    refine ⟨_, hmem, .single ok, hcounted _ hmem, ?_, ?_, ?_⟩
    · intro e' he'
      obtain rfl := List.mem_singleton.mp he'
      exact (hstems _ hmem).exists_outage List.mem_cons_self
    · intro e' he'
      obtain rfl := List.mem_singleton.mp he'
      exact hwithin
    · intro e' he' _
      obtain rfl := List.mem_singleton.mp he'
      exact hwithin
  · have hmem : PendingRecord.group g ∈ d.pending.records := mem_records_group.mpr hg
    refine ⟨_, hmem, .group ok hrecovered.1, hcounted _ hmem, ?_, hrecovered.2, ?_⟩
    · intro e he
      refine (hstems _ hmem).exists_outage ?_
      have htarget : e.target ∈ (es.map Event.target).toFinset :=
        List.mem_toFinset.mpr (List.mem_map_of_mem he)
      rw [← hrecovered.1] at htarget
      exact List.mem_toFinset.mp htarget
    · intro e he hown
      exact sub_le_of_le (hrecovered.2 e he) hown

/-- The member that comes first by name went down last; the other one comes back forty seconds
after its own outage, and is still told by an edit. -/
theorem editInWindow_run_slow_member :
    let down (name : String) (ms : Int) : Event :=
      ⟨.down, name, "10.0.0.1", 8080, .stateChange, .atMillis ms⟩
    let back (name : String) (ms : Int) : Event :=
      ⟨.recovered, name, "10.0.0.1", 8080, .stateChange, .atMillis ms⟩
    let batches := [[down "a" 10000, down "b" 0]]
    let events := [back "a" 40000, back "b" 40000]
    let window := Span.ofSeconds 30
    let d := Desk.run Script.channel window {} batches
    (∀ batch ∈ batches, (batch.map Event.target).Nodup) ∧ (events.map Event.target).Nodup ∧
      (d.tell Script.channel window events).notices.map (fun n => (n.call.isEdit, n.events)) =
        [(true, events)] ∧
      ¬ (back "b" 40000).occurred - (down "b" 0).occurred ≤ window ∧
      (∀ n ∈ (d.tell Script.channel window events).notices, n.call.isEdit = true →
        ∃ r ∈ d.pending.records, EditInWindow d.events window r n) ∧
      ∀ g ∈ d.pending.groups, (∀ name ∈ g.targets.names, d.pending.singles.find? name = none) →
        ((∀ batch, (batch.map Event.target).Nodup →
            ∀ n ∈ (d.tell Script.channel window batch).notices,
              (PendingRecord.group g).EditedBy n →
              ∀ e ∈ n.events, e.occurred - g.downAtOf e.target ≤ window) ↔
          ∀ name ∈ g.targets.names, g.downAt ≤ g.downAtOf name) := by
  intro down back batches events window d
  have hbatches : ∀ batch ∈ batches, (batch.map Event.target).Nodup := by decide
  have hd : (events.map Event.target).Nodup := by decide
  exact ⟨hbatches, hd, by decide +kernel, by decide,
    editInWindow_run Script.channel window {} hbatches hd⟩

end Uptime
