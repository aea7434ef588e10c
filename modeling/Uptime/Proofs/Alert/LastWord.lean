import Uptime.Proofs.Alert.Accounting
import Uptime.Proofs.Alert.Coverage
import Uptime.Proofs.Alert.Desk

/-!
# The last word about a target

Each call of a batch tells events of one kind, and each event of the batch is told by a call. So if
no two events of a batch are about one target, the last call about a target tells what the last
event about it says.

## Main definitions

* `Notice.Tells`: a call tells of outages, or of recoveries.
* `lastEvent?`, `lastNotice?`: the last event about a target, and the last call about it.
* `Desk.Informed`: the last calls tell the last events.

## Main results

* `exists_tells_of_mem_deliver`, `exists_mem_deliver`: what the calls of a batch tell.
* `Desk.Informed.take`: a desk stays informed.
-/

namespace Uptime

variable {σ : Type}

/-- A call is a new message about outages, or a new message or an edit about recoveries. -/
inductive Notice.Tells : AlertKind → Notice → Prop
  /-- A new message about events of one kind. -/
  | message {kind : AlertKind} {n : Notice} (hkind : ∀ e ∈ n.events, e.kind = kind)
      (hedit : n.call.isEdit = false) (htext : n.call.text = Alert.groupText n.events) :
      Tells kind n
  /-- The message about the outage of one target is edited. -/
  | single {e : Event} {q : PendingSingle} {ok : Bool} (hkind : e.kind = .recovered) :
      Tells .recovered (.single e q ok)
  /-- The message about the outages of a group is edited. -/
  | group {es : List Event} {g : PendingGroup} {ok : Bool} (hkind : ∀ e ∈ es, e.kind = .recovered) :
      Tells .recovered (.group es g ok)

theorem Notice.Tells.kind_eq {kind : AlertKind} {n : Notice} (h : n.Tells kind) {e : Event}
    (he : e ∈ n.events) : e.kind = kind := by
  cases h with
  | message hkind _ _ => exact hkind e he
  | single hkind => exact List.mem_singleton.mp he ▸ hkind
  | group hkind => exact hkind e he

/-- A call is about some target. -/
def Notice.Covers (name : String) (n : Notice) : Prop := ∃ e ∈ n.events, e.target = name

instance (name : String) (n : Notice) : Decidable (n.Covers name) :=
  inferInstanceAs (Decidable (∃ e ∈ n.events, e.target = name))

/-- The last of some events that is about a target. -/
def lastEvent? (events : List Event) (name : String) : Option Event :=
  (events.filter fun e => e.target = name).getLast?

/-- The last of some calls that is about a target. -/
def lastNotice? (notices : List Notice) (name : String) : Option Notice :=
  (notices.filter fun n => n.Covers name).getLast?

theorem lastEvent?_append (events more : List Event) (name : String) :
    lastEvent? (events ++ more) name = (lastEvent? more name).or (lastEvent? events name) := by
  rw [lastEvent?, List.filter_append, List.getLast?_append]
  rfl

theorem lastNotice?_append (notices more : List Notice) (name : String) :
    lastNotice? (notices ++ more) name = (lastNotice? more name).or (lastNotice? notices name) := by
  rw [lastNotice?, List.filter_append, List.getLast?_append]
  rfl

theorem of_lastEvent?_eq_some {events : List Event} {name : String} {e : Event}
    (h : lastEvent? events name = some e) : e ∈ events ∧ e.target = name := by
  simpa using List.mem_filter.mp (List.mem_of_getLast? h)

theorem of_lastNotice?_eq_some {notices : List Notice} {name : String} {n : Notice}
    (h : lastNotice? notices name = some n) : n ∈ notices ∧ n.Covers name := by
  simpa using List.mem_filter.mp (List.mem_of_getLast? h)

theorem lastEvent?_eq_none_iff {events : List Event} {name : String} :
    lastEvent? events name = none ↔ ∀ e ∈ events, e.target ≠ name := by
  simp [lastEvent?]

theorem lastNotice?_eq_none_iff {notices : List Notice} {name : String} :
    lastNotice? notices name = none ↔ ∀ n ∈ notices, ¬ n.Covers name := by
  simp [lastNotice?]

/-- If no two events are about one target, the last one about a target is the only one. -/
theorem lastEvent?_eq_some_iff {events : List Event} (hd : (events.map Event.target).Nodup)
    {name : String} {e : Event} :
    lastEvent? events name = some e ↔ e ∈ events ∧ e.target = name := by
  refine ⟨of_lastEvent?_eq_some, fun ⟨he, hname⟩ => ?_⟩
  cases hlast : lastEvent? events name with
  | none => exact absurd hname (lastEvent?_eq_none_iff.mp hlast e he)
  | some e' =>
    obtain ⟨he', hname'⟩ := of_lastEvent?_eq_some hlast
    rw [List.inj_on_of_nodup_map hd he' he (hname'.trans hname.symm)]

/-! ### What the calls of a batch tell -/

theorem Announcement.tells {receipt : Receipt} {category : Category} {es : List Event}
    {ns : List Notice} (h : Announcement receipt category (ofCategory es category) ns) :
    ∀ n ∈ ns, n.Tells category.kind := by
  have hkind : ∀ e ∈ ofCategory es category, e.kind = category.kind := fun e he =>
    congrArg Category.kind (mem_ofCategory.mp he).2
  generalize ofCategory es category = told at *
  intro n hn
  cases h with
  | silent => cases hn
  | plain ok _ _ =>
    rw [List.mem_singleton.mp hn]
    exact .message hkind rfl rfl
  | tracked _ =>
    rw [List.mem_singleton.mp hn]
    exact .message hkind rfl rfl

/-- **A call of a batch tells events of the batch, all of one kind.** -/
theorem exists_tells_of_mem_deliver {ch : Channel σ} {window : Span} {s : σ} {p : Pending}
    {events : List Event} {n : Notice} (hn : n ∈ (deliver ch window s p events).notices) :
    (∀ e ∈ n.events, e ∈ events) ∧ ∃ kind, n.Tells kind := by
  obtain ⟨singles, left, grouped, rest, receipt, nss, t, hsingles, hgrouped, hnss, heq⟩ :=
    deliver_eq ch window s p events
  generalize p.answering window left = g? at hgrouped
  have hkind : ∀ {e}, e ∈ recoveries events → e ∈ events ∧ e.kind = .recovered := fun he =>
    ⟨(mem_recoveries.mp he).1, congrArg Category.kind (mem_recoveries.mp he).2⟩
  rw [heq] at hn
  rcases List.mem_append.mp hn with hedit | hnew
  · rcases List.mem_append.mp hedit with hsingle | hgroup
    · obtain ⟨e, he, q, ok, -, rfl⟩ := hsingles.exists_of_mem n hsingle
      refine ⟨fun e' he' => ?_, .recovered, .single (hkind he).2⟩
      rw [List.mem_singleton.mp he']
      exact (hkind he).1
    · have hleft := hsingles.sublist.subset
      obtain ⟨g, ok, rfl⟩ := hgrouped.exists_eq_group n hgroup
      exact ⟨fun e he => (hkind (hleft he)).1, .recovered, .group fun e he => (hkind (hleft he)).2⟩
  · have hrest := (hgrouped.sublist.trans hsingles.sublist).subset
    refine ⟨fun e he => ?_, ?_⟩
    · rcases List.mem_append.mp (mem_of_mem_announcements hnss hnew he) with he | he
      · exact (List.mem_filter.mp he).1
      · exact (hkind (hrest he)).1
    · obtain ⟨ns, hns, hn⟩ := List.mem_flatten.mp hnew
      obtain ⟨category, -, hannouncement⟩ := exists_of_forall₂ hnss.flip hns
      exact ⟨category.kind, Announcement.tells hannouncement n hn⟩

/-- **Every event of a batch is told by a call.** -/
theorem exists_mem_deliver {ch : Channel σ} {window : Span} {s : σ} {p : Pending}
    {events : List Event} {e : Event} (he : e ∈ events) :
    ∃ n ∈ (deliver ch window s p events).notices, e ∈ n.events := by
  obtain ⟨singles, left, grouped, rest, receipt, nss, t, hsingles, hgrouped, hnss, heq⟩ :=
    deliver_eq ch window s p events
  rw [heq, ← List.mem_flatMap, List.flatMap_append, List.mem_append,
    flatMap_events_of_announcements hnss, (perm_flatMap_ofCategory _).mem_iff]
  -- a recovery is told by an edit that succeeds or left to the new messages
  rcases List.mem_append.mp ((perm_recoveries_append_others events).mem_iff.mpr he) with he | he
  · rcases List.mem_append.mp ((perm_of_edits hsingles hgrouped).mem_iff.mpr he) with he | he
    · obtain ⟨n, hn, hevent⟩ := List.mem_flatMap.mp he
      exact .inl (List.mem_flatMap.mpr ⟨n, (List.mem_filter.mp hn).1, hevent⟩)
    · exact .inr (List.mem_append_right _ he)
  · exact .inr (List.mem_append_left _ he)

/-! ### Desks -/

namespace Desk

/-- The last call about a target tells the last event about it. -/
def Informed (d : Desk σ) : Prop :=
  ∀ name e, lastEvent? d.events name = some e →
    ∃ n, lastNotice? d.notices name = some n ∧ e ∈ n.events ∧ n.Tells e.kind

/-- **A desk stays informed** by batches without two events about one target. -/
theorem Informed.take {d : Desk σ} (h : d.Informed) (ch : Channel σ) (window : Span)
    {events : List Event} (hd : (events.map Event.target).Nodup) :
    (d.take ch window events).Informed := by
  intro name e he
  have hevents : (d.take ch window events).events = d.events ++ events := rfl
  have hnotices : (d.take ch window events).notices =
      d.notices ++ (d.tell ch window events).notices := rfl
  rw [hevents, lastEvent?_append] at he
  rw [hnotices, lastNotice?_append]
  cases hnew : lastEvent? events name with
  | some e' =>
    obtain rfl : e' = e := by simpa [hnew] using he
    obtain ⟨hmem, hname⟩ := of_lastEvent?_eq_some hnew
    -- some call of the batch is about the target, and the last such call tells its only event
    cases hlast : lastNotice? (d.tell ch window events).notices name with
    | none =>
      obtain ⟨n, hn, hcovered⟩ := exists_mem_deliver hmem
      exact absurd ⟨e', hcovered, hname⟩ (lastNotice?_eq_none_iff.mp hlast n hn)
    | some n =>
      obtain ⟨hn, e, hcovered, hname'⟩ := of_lastNotice?_eq_some hlast
      obtain ⟨hevents, kind, htells⟩ := exists_tells_of_mem_deliver hn
      obtain rfl := List.inj_on_of_nodup_map hd (hevents e hcovered) hmem (hname'.trans hname.symm)
      exact ⟨n, rfl, hcovered, htells.kind_eq hcovered ▸ htells⟩
  | none =>
    have hold : lastEvent? d.events name = some e := by simpa [hnew] using he
    obtain ⟨n, hn, hrest⟩ := h name e hold
    have hnone : lastNotice? (d.tell ch window events).notices name = none := by
      refine lastNotice?_eq_none_iff.mpr fun n hn => ?_
      rintro ⟨e, hcovered, hname⟩
      exact lastEvent?_eq_none_iff.mp hnew e ((exists_tells_of_mem_deliver hn).1 e hcovered) hname
    exact ⟨n, by rw [hnone, hn]; rfl, hrest⟩

end Desk

end Uptime
