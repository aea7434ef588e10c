import Uptime.Proofs.Alert.Record

/-!
# Batches one after the other

A desk tells the batches that it is handed, one after the other, and keeps what is pending. It
also remembers the events and the calls, which no batch depends on.

## Main definitions

* `Desk`, `Desk.tell`, `Desk.take`, `Desk.run`: a desk, one batch, and a run from the beginning.
* `PendingRecord.StemsFrom`: a record tells of outages among some events.

## Main results

* `Desk.wellFormed_run`: the maps of a desk are maps.
* `mem_records_deliver`: a record is an older one or that of the message about outages.
* `Desk.stemsFrom_run`: every record tells of outages that were handed in.
-/

namespace Uptime

variable {σ : Type}

/-- A desk between two batches. -/
structure Desk (σ : Type) where
  /-- The state of the channel. -/
  channel : σ
  /-- The messages that may still be edited. -/
  pending : Pending := {}
  /-- The events that were handed in, in order. -/
  events : List Event := []
  /-- The calls that were made, in order. -/
  notices : List Notice := []

namespace Desk

/-- How a batch is told. -/
def tell (ch : Channel σ) (window : Span) (d : Desk σ) (events : List Event) : Consolidation σ :=
  deliver ch window d.channel d.pending events

/-- Tells a batch. -/
def take (ch : Channel σ) (window : Span) (d : Desk σ) (events : List Event) : Desk σ :=
  let told := d.tell ch window events
  { channel := told.channel
    pending := told.pending
    events := d.events ++ events
    notices := d.notices ++ told.notices }

/-- A fresh desk that has told some batches. -/
def run (ch : Channel σ) (window : Span) (s : σ) (batches : List (List Event)) : Desk σ :=
  batches.foldl (take ch window) { channel := s }

theorem run_append_singleton (ch : Channel σ) (window : Span) (s : σ)
    (batches : List (List Event)) (events : List Event) :
    run ch window s (batches ++ [events]) = (run ch window s batches).take ch window events := by
  rw [run, List.foldl_append]
  rfl

/-- What holds of a fresh desk and is kept by every batch holds throughout a run. -/
theorem run_induction {P : Desk σ → Prop} {ch : Channel σ} {window : Span} {s : σ}
    (hfresh : P { channel := s })
    {batches : List (List Event)}
    (htake : ∀ d, ∀ events ∈ batches, P d → P (d.take ch window events)) :
    P (run ch window s batches) :=
  List.foldlRecOn batches _ hfresh fun d h events hevents => htake d events hevents h

theorem wellFormed_run (ch : Channel σ) (window : Span) (s : σ) (batches : List (List Event)) :
    (run ch window s batches).pending.WellFormed :=
  run_induction (P := fun d => d.pending.WellFormed)
    ⟨List.nodup_nil, fun _ hg => absurd hg List.not_mem_nil⟩
    fun d events _ h => Pending.wellFormed_deliver h ch window d.channel events

end Desk

/-! ### Where records come from -/

theorem mem_records_single {p : Pending} {target : String} {q : PendingSingle} :
    PendingRecord.single target q ∈ p.records ↔ (target, q) ∈ p.singles := by
  simp [Pending.records]

theorem mem_records_group {p : Pending} {g : PendingGroup} :
    PendingRecord.group g ∈ p.records ↔ g ∈ p.groups := by
  simp [Pending.records]

theorem Pending.mem_records_record {p : Pending} {id : MessageId} {outages : List Event}
    {r : PendingRecord} (h : r ∈ (p.record id outages).records) :
    r ∈ p.records ∨ r ∈ PendingRecord.ofOutages id outages := by
  match outages, r with
  | [], _ => exact .inl h
  | [e], .single target q =>
    rcases NameMap.mem_insert.mp (mem_records_single.mp h) with heq | ⟨hold, -⟩
    · obtain ⟨rfl, rfl⟩ := Prod.mk.inj heq
      exact .inr List.mem_cons_self
    · exact .inl (mem_records_single.mpr hold)
  | [e], .group g =>
    have hold : g ∈ (p.record id [e]).groups := mem_records_group.mp h
    exact .inl (mem_records_group.mpr hold)
  | e :: e' :: es, .single target q =>
    have hold : (target, q) ∈ (p.record id (e :: e' :: es)).singles := mem_records_single.mp h
    exact .inl (mem_records_single.mpr hold)
  | e :: e' :: es, .group g =>
    rcases List.mem_append.mp (mem_records_group.mp h) with hold | hnew
    · exact .inl (mem_records_group.mpr hold)
    · obtain rfl := List.mem_singleton.mp hnew
      exact .inr List.mem_cons_self

theorem Pending.mem_records_announced {p : Pending} {window : Span} {receipt : Receipt}
    {outages : List Event} {r : PendingRecord}
    (h : r ∈ (p.announced window receipt outages).records) :
    r ∈ p.records ∨ ∃ id, receipt = .tracked id ∧ r ∈ PendingRecord.ofOutages id outages := by
  match outages with
  | [] => exact .inl h
  | e :: es =>
    have hsuperseded : ∀ {r}, r ∈ (p.supersede (e :: es) (Consolidation.lastOccurred e es)
        window).records → r ∈ p.records := by
      intro r hr
      exact ((List.Sublist.refl _).append ((p.groups_supersede_sublist _ _ _).map _)).subset hr
    cases receipt with
    | failed => exact .inl (hsuperseded h)
    | untracked => exact .inl (hsuperseded h)
    | tracked id =>
      rcases mem_records_record h with h | h
      · exact .inl (hsuperseded h)
      · exact .inr ⟨id, rfl, h⟩

theorem Pending.records_edited_sublist (p : Pending) (window : Span) (events left : List Event) :
    (p.edited window events left).records.Sublist p.records :=
  ((p.singles_edited_sublist window events left).map _).append
    ((p.groups_edited_sublist window events left).map _)

/-- **A record after a batch is an older one or that of the message about its outages.** -/
theorem mem_records_deliver {ch : Channel σ} {window : Span} {s : σ} {p : Pending}
    {events : List Event} {r : PendingRecord}
    (h : r ∈ (deliver ch window s p events).pending.records) :
    r ∈ p.records ∨ ∃ id, r ∈ PendingRecord.ofOutages id (ofCategory events .outage) := by
  obtain ⟨_, left, _, _, receipt, _, _, -, -, -, heq⟩ := deliver_eq ch window s p events
  rw [heq] at h
  rcases Pending.mem_records_announced h with h | ⟨id, -, h⟩
  · exact .inl ((p.records_edited_sublist window events left).subset h)
  · exact .inr ⟨id, h⟩

/-- A record tells of outages among some events, each under the name of its target. -/
def PendingRecord.StemsFrom (events : List Event) : PendingRecord → Prop
  | single target q => ∃ o ∈ events, o.category = .outage ∧ o.target = target ∧
      q = ⟨q.messageId, o.occurred, o.reason, o.address, o.port⟩
  | group g => ∀ entry ∈ g.targets, entry.2 ∈ events ∧ entry.2.category = .outage ∧
      entry.2.target = entry.1

namespace PendingRecord

theorem StemsFrom.mono {events more : List Event} (hsubset : events ⊆ more) {r : PendingRecord}
    (h : r.StemsFrom events) : r.StemsFrom more := by
  cases r with
  | single target q =>
    obtain ⟨o, ho, hrest⟩ := h
    exact ⟨o, hsubset ho, hrest⟩
  | group g => exact fun entry hentry => ⟨hsubset (h entry hentry).1, (h entry hentry).2⟩

theorem stemsFrom_ofOutages {events outages : List Event}
    (h : ∀ o ∈ outages, o ∈ events ∧ o.category = .outage) {id : MessageId} {r : PendingRecord}
    (hr : r ∈ ofOutages id outages) : r.StemsFrom events := by
  match outages with
  | [] => exact absurd hr List.not_mem_nil
  | [e] =>
    obtain rfl := List.mem_singleton.mp hr
    obtain ⟨he, hcategory⟩ := h e List.mem_cons_self
    exact ⟨e, he, hcategory, rfl, rfl⟩
  | e :: e' :: es =>
    obtain rfl := List.mem_singleton.mp hr
    rintro ⟨name, o⟩ ho
    obtain ⟨hmem, rfl⟩ := mem_of_mem_eventsByTarget ho
    exact ⟨(h o hmem).1, (h o hmem).2, rfl⟩

end PendingRecord

/-- **Every record tells of outages that were handed in.** -/
theorem Desk.stemsFrom_run (ch : Channel σ) (window : Span) (s : σ)
    (batches : List (List Event)) :
    ∀ r ∈ (run ch window s batches).pending.records,
      r.StemsFrom (run ch window s batches).events := by
  refine run_induction (P := fun d => ∀ r ∈ d.pending.records, r.StemsFrom d.events)
    (fun r hr => absurd hr List.not_mem_nil) fun d events _ h r hr => ?_
  rcases mem_records_deliver hr with hold | ⟨id, hnew⟩
  · exact (h r hold).mono (List.subset_append_left _ _)
  · refine PendingRecord.stemsFrom_ofOutages (fun o ho => ?_) hnew
    obtain ⟨ho, hcategory⟩ := mem_ofCategory.mp ho
    exact ⟨List.mem_append_right _ ho, hcategory⟩

end Uptime
