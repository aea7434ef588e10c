import Uptime.Proofs.Alert.Resolution

/-!
# How the recoveries of a batch are told

A batch as seen from one of its recoveries, when no two events of the batch are about one
target: which edits are about it, and whether it needs a new message.

## Main definitions

* `Edited`, `Merged`, `Announced`: how calls may tell an event.
* `Passes`: the passes over a batch.

## Main results

* `mem_rest_iff_of_edits`: which recoveries the edits leave to the new messages.
* `announced_iff_mem_rest`: the new messages are about those.
* `deliver_passes`: which edits and new messages are about a recovery.
-/

namespace Uptime

variable {σ : Type}

/-- Some calls edit a message about an event, whether or not they succeed. -/
def Edited (notices : List Notice) (e : Event) : Prop :=
  ∃ n ∈ notices, n.call.isEdit = true ∧ e ∈ n.events

/-- Some calls edit a message about an event, and one succeeds. -/
def Merged (notices : List Notice) (e : Event) : Prop :=
  ∃ n ∈ notices, n.call.isEdit = true ∧ e ∈ n.events ∧ n.call.succeeded = true

theorem Merged.edited {notices : List Notice} {e : Event} (h : Merged notices e) :
    Edited notices e := by
  obtain ⟨n, hn, hedit, he, -⟩ := h
  exact ⟨n, hn, hedit, he⟩

/-- An event is told by a new message about events of its category. -/
def Announced (notices : List Notice) (e : Event) : Prop :=
  ∃ es ok, (⟨.send (Alert.groupText es) ok, es⟩ : Notice) ∈ notices ∧ e ∈ es ∧
    ∀ e' ∈ es, e'.category = e.category

section

variable {edits fresh : List Notice} {e : Event}

theorem edited_append_iff (hedits : ∀ n ∈ edits, n.call.isEdit = true)
    (hfresh : ∀ n ∈ fresh, n.call.isEdit = false) :
    Edited (edits ++ fresh) e ↔ ∃ n ∈ edits, e ∈ n.events := by
  constructor
  · rintro ⟨n, hn, hedit, he⟩
    rcases List.mem_append.mp hn with hn | hn
    · exact ⟨n, hn, he⟩
    · rw [hfresh n hn] at hedit
      cases hedit
  · rintro ⟨n, hn, he⟩
    exact ⟨n, List.mem_append_left _ hn, hedits n hn, he⟩

theorem not_merged_append_iff (hedits : ∀ n ∈ edits, n.call.isEdit = true)
    (hfresh : ∀ n ∈ fresh, n.call.isEdit = false) :
    ¬ Merged (edits ++ fresh) e ↔ ∀ n ∈ edits, e ∈ n.events → n.call.succeeded = false := by
  constructor
  · intro h n hn he
    refine Bool.eq_false_iff.mpr fun hok => h ?_
    exact ⟨n, List.mem_append_left _ hn, hedits n hn, he, hok⟩
  · rintro h ⟨n, hn, hedit, he, hok⟩
    rcases List.mem_append.mp hn with hn | hn
    · rw [h n hn he] at hok
      cases hok
    · rw [hfresh n hn] at hedit
      cases hedit

end

/-! ### Single events of a batch -/

/-- A recovery is left by the pass over the messages about one target unless it has been told. -/
theorem SingleEdits.mem_left_iff {window : Span} {m : NameMap PendingSingle} {es left : List Event}
    {ns : List Notice} (h : SingleEdits window m es ns left) (hd : (es.map Event.target).Nodup)
    {e : Event} : e ∈ left ↔ e ∈ es ∧ ∀ n ∈ ns, n.events = [e] → n.call.succeeded = false := by
  rw [h.left_eq hd, untold, List.mem_filter, decide_eq_true_eq]

theorem exists_of_forall₂ {α β : Type} {R : α → β → Prop} {xs : List α} {ys : List β}
    (h : List.Forall₂ R xs ys) {x : α} (hx : x ∈ xs) : ∃ y ∈ ys, R x y := by
  induction h with
  | nil => cases hx
  | cons hfirst _ ih =>
    rcases List.mem_cons.mp hx with rfl | hx
    · exact ⟨_, List.mem_cons_self, hfirst⟩
    · obtain ⟨y, hy, hr⟩ := ih hx
      exact ⟨y, List.mem_cons_of_mem _ hy, hr⟩

/-- Events other than outages are told by a message that will not be edited. -/
theorem Announcement.eq_send {receipt : Receipt} {category : Category} {es : List Event}
    {ns : List Notice} (h : Announcement receipt category es ns) (hcategory : category ≠ .outage)
    (hne : es ≠ []) : ∃ ok, ns = [⟨.send (Alert.groupText es) ok, es⟩] := by
  cases h with
  | silent => exact absurd rfl hne
  | plain ok => exact ⟨ok, rfl⟩
  | tracked => exact absurd rfl hcategory

/-- New messages are about what is left for them. -/
theorem mem_of_mem_announcements {receipt : Receipt} {es : List Event} {nss : List (List Notice)}
    (h : List.Forall₂ (fun k ns => Announcement receipt k (ofCategory es k) ns) Category.all nss)
    {n : Notice} (hn : n ∈ nss.flatten) {e : Event} (he : e ∈ n.events) : e ∈ es := by
  have hmem : e ∈ nss.flatten.flatMap Notice.events := List.mem_flatMap.mpr ⟨n, hn, he⟩
  rw [flatMap_events_of_announcements h] at hmem
  exact (perm_flatMap_ofCategory es).mem_iff.mp hmem

/-- The passes over a batch whose events are about different targets, as seen from one of its
recoveries. -/
structure Passes (window : Span) (p : Pending) (events : List Event) (notices : List Notice)
    (singles : List Notice) : Prop where
  /-- First come the edits about single targets. -/
  notices_eq : ∃ more, notices = singles ++ more
  /-- There is one for each recovery that the record of its target can tell. -/
  forall_singles : List.Forall₂ (fun told n => ∃ ok, n = Notice.single told.1 told.2 ok)
    ((recoveries events).filterMap fun e => (recordIn p.singles window e).map (e, ·)) singles
  /-- Edits are about recoveries that the record of their target can tell, and about those that
  bring a group back. -/
  edited_iff : ∀ e ∈ recoveries events, Edited notices e ↔
    (recordIn p.singles window e).isSome ∨
      ∃ g ∈ p.groups, e.target ∈ g.targets.names ∧
        g.RecoveredBy (untold (recoveries events) singles) window
  /-- A new message is about the recoveries that no edit has told. -/
  announced_iff : ∀ e ∈ recoveries events, Announced notices e ↔ ¬ Merged notices e

section

variable {window : Span} {p : Pending} {events left rest : List Event}
  {singles grouped : List Notice} {receipt : Receipt} {nss : List (List Notice)} {e : Event}

/-- The edits about single targets are about the recoveries with a record. -/
theorem SingleEdits.exists_iff
    (hsingles : SingleEdits window p.singles (recoveries events) singles left)
    (hd : (events.map Event.target).Nodup) (he : e ∈ recoveries events) :
    (∃ n ∈ singles, e ∈ n.events) ↔ (recordIn p.singles window e).isSome := by
  constructor
  · rintro ⟨n, hn, hevents⟩
    obtain ⟨e', -, q, ok, hrecord, rfl⟩ := hsingles.exists_of_mem n hn
    obtain rfl := List.mem_singleton.mp hevents
    rw [hrecord]
    rfl
  · intro h
    obtain ⟨q, hrecord⟩ := Option.isSome_iff_exists.mp h
    have hmem : (e, q) ∈ (recoveries events).filterMap fun e =>
        (recordIn p.singles window e).map (e, ·) :=
      List.mem_filterMap.mpr ⟨e, he, by rw [hrecord]; rfl⟩
    obtain ⟨n, hn, ok, rfl⟩ := exists_of_forall₂ (hsingles.forall₂ (nodup_recoveries hd)) hmem
    exact ⟨_, hn, List.mem_cons_self⟩

/-- The edit about a group is about all recoveries that are left. -/
theorem GroupEdit.exists_iff {g? : Option PendingGroup} (h : GroupEdit g? left grouped rest) :
    (∃ n ∈ grouped, e ∈ n.events) ↔ g?.isSome ∧ e ∈ left := by
  cases h with
  | missed => simp
  | edited ok => simp [Notice.group]

/-- Recoveries are left for the new messages unless the edit about a group tells them. -/
theorem GroupEdit.mem_rest_iff {g? : Option PendingGroup} (h : GroupEdit g? left grouped rest) :
    e ∈ rest ↔ e ∈ left ∧ ∀ n ∈ grouped, n.call.succeeded = false := by
  cases h with
  | missed => simp
  | edited ok => cases ok <;> simp [Notice.group, Call.succeeded]

/-- A group answers some recoveries if they bring one back. -/
theorem Pending.isSome_answering_iff (hp : p.WellFormed) (hleft : (left.map Event.target).Nodup)
    (hne : left ≠ []) :
    (p.answering window left).isSome ↔ ∃ g ∈ p.groups, g.RecoveredBy left window := by
  rw [answering_eq_recovered hp hleft, recovered, if_neg hne, List.find?_isSome]
  simp

theorem GroupEdit.exists_eq_group {g? : Option PendingGroup}
    (h : GroupEdit g? left grouped rest) : ∀ n ∈ grouped, ∃ g ok, n = .group left g ok := by
  cases h with
  | missed => exact fun n hn => absurd hn List.not_mem_nil
  | @edited g _ ok => exact fun n hn => ⟨g, ok, List.mem_singleton.mp hn⟩

/-- All edits of a batch. -/
theorem eq_single_or_group_of_edits {g? : Option PendingGroup}
    (hsingles : SingleEdits window p.singles (recoveries events) singles left)
    (hgrouped : GroupEdit g? left grouped rest) : ∀ n ∈ singles ++ grouped,
      (∃ e q ok, n = .single e q ok) ∨ ∃ es g ok, n = .group es g ok := by
  intro n hn
  rcases List.mem_append.mp hn with hn | hn
  · obtain ⟨e, -, q, ok, -, rfl⟩ := hsingles.exists_of_mem n hn
    exact .inl ⟨e, q, ok, rfl⟩
  · exact .inr ⟨left, hgrouped.exists_eq_group n hn⟩

theorem isEdit_of_edits {g? : Option PendingGroup}
    (hsingles : SingleEdits window p.singles (recoveries events) singles left)
    (hgrouped : GroupEdit g? left grouped rest) :
    ∀ n ∈ singles ++ grouped, n.call.isEdit = true := by
  intro n hn
  obtain ⟨e, q, ok, rfl⟩ | ⟨es, g, ok, rfl⟩ :=
    eq_single_or_group_of_edits hsingles hgrouped n hn
  · rfl
  · rfl

/-- An event is merged by the edits unless it is left to the new messages. -/
theorem mem_rest_iff_of_edits {g? : Option PendingGroup}
    (hsingles : SingleEdits window p.singles (recoveries events) singles left)
    (hgrouped : GroupEdit g? left grouped rest) (hd : (events.map Event.target).Nodup)
    (he : e ∈ recoveries events) :
    e ∈ rest ↔ ∀ n ∈ singles ++ grouped, e ∈ n.events → n.call.succeeded = false := by
  -- an edit of the first pass is about one recovery only
  have hsingle : ∀ n ∈ singles, e ∈ n.events ↔ n.events = [e] := by
    intro n hn
    obtain ⟨e', -, q, ok, -, rfl⟩ := hsingles.exists_of_mem n hn
    simp [Notice.single, eq_comm]
  rw [hgrouped.mem_rest_iff, hsingles.mem_left_iff (nodup_recoveries hd)]
  constructor
  · rintro ⟨⟨-, hfailed⟩, hgroup⟩ n hn hevents
    rcases List.mem_append.mp hn with hn | hn
    · exact hfailed n hn ((hsingle n hn).mp hevents)
    · exact hgroup n hn
  · intro hfailed
    have hleft : e ∈ left := by
      refine (hsingles.mem_left_iff (nodup_recoveries hd)).mpr ⟨he, fun n hn hevents => ?_⟩
      exact hfailed n (List.mem_append_left _ hn) ((hsingle n hn).mpr hevents)
    refine ⟨(hsingles.mem_left_iff (nodup_recoveries hd)).mp hleft, fun n hn => ?_⟩
    refine hfailed n (List.mem_append_right _ hn) ?_
    cases hgrouped with
    | missed => cases hn
    | edited ok =>
      obtain rfl := List.mem_singleton.mp hn
      exact hleft

end

/-- The message about recoveries is about those that are left to it. -/
theorem announced_iff_mem_rest {edits : List Notice} {events rest : List Event} {receipt : Receipt}
    {nss : List (List Notice)} (hedits : ∀ n ∈ edits, n.call.isEdit = true)
    (hnss : List.Forall₂ (fun k ns => Announcement receipt k (ofCategory (others events ++ rest) k) ns)
      Category.all nss) {e : Event} (hcategory : e.category = .recovery) :
    Announced (edits ++ nss.flatten) e ↔ e ∈ rest := by
  have hmem : e ∈ others events ++ rest ↔ e ∈ rest := by
    simp [others, hcategory]
  constructor
  · rintro ⟨es, ok, hn, he, -⟩
    rcases List.mem_append.mp hn with hn | hn
    · exact absurd (hedits _ hn) (by simp [Call.isEdit])
    · exact hmem.mp (mem_of_mem_announcements hnss hn he)
  · intro he
    have hofCategory : e ∈ ofCategory (others events ++ rest) .recovery :=
      mem_ofCategory.mpr ⟨hmem.mpr he, hcategory⟩
    obtain ⟨ns, hns, hannouncement⟩ := exists_of_forall₂ hnss (Category.mem_all .recovery)
    obtain ⟨ok, rfl⟩ := hannouncement.eq_send (by decide) (List.ne_nil_of_mem hofCategory)
    refine ⟨_, ok, List.mem_append_right _ (List.mem_flatten.mpr ⟨_, hns, List.mem_cons_self⟩),
      hofCategory, fun e' he' => ?_⟩
    rw [(mem_ofCategory.mp he').2, hcategory]

/-- **What the passes over a batch mean for one of its recoveries.** -/
theorem deliver_passes (ch : Channel σ) (window : Span) (s : σ) {p : Pending}
    {events : List Event} (hp : p.WellFormed) (hd : (events.map Event.target).Nodup) :
    ∃ singles, Passes window p events (deliver ch window s p events).notices singles := by
  obtain ⟨singles, left, grouped, rest, receipt, nss, t, hsingles, hgrouped, hnss, heq⟩ :=
    deliver_eq ch window s p events
  have hleft : (left.map Event.target).Nodup :=
    (nodup_recoveries hd).sublist (hsingles.sublist.map _)
  have hedits := isEdit_of_edits hsingles hgrouped
  have hfresh := isEdit_of_announcements hnss
  rw [heq]
  refine ⟨singles, ⟨grouped ++ nss.flatten, by rw [List.append_assoc]⟩,
    hsingles.forall₂ (nodup_recoveries hd), fun e he => ?_, fun e he => ?_⟩
  · have hedited : Edited (singles ++ grouped ++ nss.flatten) e ↔
        (∃ n ∈ singles, e ∈ n.events) ∨ ∃ n ∈ grouped, e ∈ n.events := by
      rw [edited_append_iff hedits hfresh]
      simp only [List.mem_append, or_and_right, exists_or]
    rw [hedited, hsingles.exists_iff hd he, hgrouped.exists_iff,
      ← hsingles.left_eq (nodup_recoveries hd)]
    -- the recoveries that may bring a group back are those that the first pass leaves
    refine or_congr_right ?_
    constructor
    · rintro ⟨hsome, hmem⟩
      obtain ⟨g, hg, hrecovered⟩ :=
        (Pending.isSome_answering_iff hp hleft (List.ne_nil_of_mem hmem)).mp hsome
      refine ⟨g, hg, ?_, hrecovered⟩
      rw [← List.mem_toFinset, hrecovered.1, List.mem_toFinset]
      exact List.mem_map_of_mem hmem
    · rintro ⟨g, hg, htarget, hrecovered⟩
      rw [← List.mem_toFinset, hrecovered.1, List.mem_toFinset] at htarget
      obtain ⟨e', he', htarget⟩ := List.mem_map.mp htarget
      obtain rfl := List.inj_on_of_nodup_map (nodup_recoveries hd)
        (hsingles.sublist.subset he') he htarget
      exact ⟨(Pending.isSome_answering_iff hp hleft (List.ne_nil_of_mem he')).mpr
        ⟨g, hg, hrecovered⟩, he'⟩
  · rw [not_merged_append_iff hedits hfresh, ← mem_rest_iff_of_edits hsingles hgrouped hd he]
    exact announced_iff_mem_rest hedits hnss (mem_recoveries.mp he).2

end Uptime
