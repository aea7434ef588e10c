import Uptime.Proofs.Alert.Edits

/-!
# The new messages of a batch

What the edits leave is told by new messages, one for each category that has events. Only the
message about outages asks for its number, and only it changes what is pending: it supersedes
older groups before it is sent, and becomes pending itself if it gets a number.

## Main definitions

* `ofCategory`: the events of one message.
* `Announcement`: the call for one category.
* `IsLatest`: the time of the last of some events.
* `Pending.announced`: what is pending after the message about outages.
* `afterEdits`: a batch between its edits and its new messages.

## Main results

* `foldl_announce`: the new messages are as described.
* `perm_flatMap_ofCategory`: the categories share out all events.
* `afterEdits_eq`, `deliver_eq`: the edits of a batch, and a whole batch.
-/

namespace Uptime

variable {σ : Type}

/-- The events of one category, in the order of their targets. -/
def ofCategory (es : List Event) (category : Category) : List Event :=
  sortByName Event.target (es.filter fun e => e.category = category)

theorem mem_ofCategory {es : List Event} {category : Category} {e : Event} :
    e ∈ ofCategory es category ↔ e ∈ es ∧ e.category = category := by
  simp [ofCategory, mem_sortByName]

/-- The categories share out all events. -/
theorem perm_flatMap_ofCategory (es : List Event) :
    (Category.all.flatMap (ofCategory es)).Perm es := by
  have hsorted : (Category.all.flatMap (ofCategory es)).Perm
      (Category.all.flatMap fun k => es.filter fun e => e.category = k) :=
    List.Perm.flatMap_left _ fun k _ => sortByName_perm _ _
  refine hsorted.trans (List.perm_iff_count.mpr fun e => ?_)
  -- every event is counted in one category and not in the others
  have hcount : ∀ k, (es.filter fun e => e.category = k).count e =
      if e.category = k then es.count e else 0 := by
    intro k
    split
    · next hk => exact List.count_filter (by simpa using hk)
    · next hk => exact List.count_eq_zero.mpr (by simp [hk])
  simp only [Category.all, List.flatMap_cons, List.flatMap_nil, List.count_append, hcount]
  obtain ⟨kind, target, address, port, reason, occurred⟩ := e
  cases kind <;> cases reason <;> simp [Event.category]

/-- `Announcement receipt category es ns` says that the events `es` of a category are told by
the calls `ns`: by none if there are no events, otherwise by one. The message about outages
asks for its number and is answered by `receipt`. -/
inductive Announcement (receipt : Receipt) : Category → List Event → List Notice → Prop
  /-- There is nothing to tell. -/
  | silent {category} : Announcement receipt category [] []
  /-- A message that will not be edited. -/
  | plain {category es} (ok : Bool) (hcategory : category ≠ .outage) (hne : es ≠ []) :
      Announcement receipt category es [⟨.send (Alert.groupText es) ok, es⟩]
  /-- The message about outages. -/
  | tracked {es} (hne : es ≠ []) :
      Announcement receipt .outage es [⟨.sendTracked (Alert.groupText es) receipt, es⟩]

namespace Announcement

variable {receipt : Receipt} {category : Category} {es : List Event} {ns : List Notice}

theorem flatMap_events (h : Announcement receipt category es ns) :
    ns.flatMap Notice.events = es := by
  cases h <;> simp

theorem isEdit_eq_false (h : Announcement receipt category es ns) :
    ∀ n ∈ ns, n.call.isEdit = false := by
  cases h <;> simp [Call.isEdit]

end Announcement

section All

variable {receipt : Receipt} {es : List Event} {categories : List Category}
  {nss : List (List Notice)}

/-- New messages are no edits. -/
theorem isEdit_of_announcements
    (h : List.Forall₂ (fun k ns => Announcement receipt k (ofCategory es k) ns) categories nss) :
    ∀ n ∈ nss.flatten, n.call.isEdit = false := by
  induction h with
  | nil => intro n hn; simp at hn
  | cons hns _ ih =>
    intro n hn
    rcases List.mem_append.mp hn with hn | hn
    · exact hns.isEdit_eq_false n hn
    · exact ih n hn

theorem flatMap_events_of_announcements
    (h : List.Forall₂ (fun k ns => Announcement receipt k (ofCategory es k) ns) categories nss) :
    nss.flatten.flatMap Notice.events = categories.flatMap (ofCategory es) := by
  induction h with
  | nil => rfl
  | cons hns _ ih =>
    rw [List.flatten_cons, List.flatMap_append, hns.flatMap_events, ih, List.flatMap_cons]

end All

/-! ### The last of some events -/

/-- The instant `t` is the time of the last of some events. -/
structure IsLatest (t : Instant) (es : List Event) : Prop where
  exists_eq : ∃ e ∈ es, e.occurred = t
  le : ∀ e ∈ es, e.occurred ≤ t

private theorem foldl_later : ∀ (es : List Event) (t : Instant),
    let last := es.foldl (fun t e => Instant.later t e.occurred) t
    t ≤ last ∧ (∀ e ∈ es, e.occurred ≤ last) ∧ (last = t ∨ ∃ e ∈ es, e.occurred = last) := by
  intro es
  induction es with
  | nil => intro t; simp [Instant.le_def]
  | cons e es ih =>
    intro t
    obtain ⟨hstart, hle, hattained⟩ := ih (Instant.later t e.occurred)
    have hlater : t ≤ Instant.later t e.occurred ∧ e.occurred ≤ Instant.later t e.occurred ∧
        (Instant.later t e.occurred = t ∨ Instant.later t e.occurred = e.occurred) := by
      unfold Instant.later
      split
      · next h => exact ⟨h, Int.le_refl _, .inr rfl⟩
      · next h => exact ⟨Int.le_refl _, Int.le_of_not_le h, .inl rfl⟩
    refine ⟨Int.le_trans hlater.1 hstart, fun e' he' => ?_, ?_⟩
    · rcases List.mem_cons.mp he' with rfl | he'
      · exact Int.le_trans hlater.2.1 hstart
      · exact hle e' he'
    · rcases hattained with hlast | ⟨e', he', hlast⟩
      · rcases hlater.2.2 with ht | he
        · exact .inl (hlast.trans ht)
        · exact .inr ⟨e, List.mem_cons_self, (hlast.trans he).symm⟩
      · exact .inr ⟨e', List.mem_cons_of_mem _ he', hlast⟩

theorem isLatest_lastOccurred (e : Event) (es : List Event) :
    IsLatest (Consolidation.lastOccurred e es) (e :: es) := by
  obtain ⟨hstart, hle, hattained⟩ := foldl_later es e.occurred
  refine ⟨?_, fun e' he' => ?_⟩
  · rcases hattained with hlast | ⟨e', he', hlast⟩
    · exact ⟨e, List.mem_cons_self, hlast.symm⟩
    · exact ⟨e', List.mem_cons_of_mem _ he', hlast⟩
  · rcases List.mem_cons.mp he' with rfl | he'
    · exact hstart
    · exact hle e' he'

/-- The same events have the same last one. -/
theorem IsLatest.eq {t u : Instant} {es es' : List Event} (h : IsLatest t es) (h' : IsLatest u es')
    (hmem : ∀ e, e ∈ es ↔ e ∈ es') : t = u := by
  obtain ⟨e, he, rfl⟩ := h.exists_eq
  obtain ⟨e', he', rfl⟩ := h'.exists_eq
  have hle : e.occurred ≤ e'.occurred := h'.le e ((hmem e).mp he)
  have hge : e'.occurred ≤ e.occurred := h.le e' ((hmem e').mpr he')
  exact congrArg Instant.mk (Int.le_antisymm hle hge)

/-! ### The message about outages -/

/-- What is pending after the message about some outages, which are in the order of names, has
been answered by `receipt`. Without outages there is no message. -/
def Pending.announced (p : Pending) (window : Span) (receipt : Receipt) : List Event → Pending
  | [] => p
  | e :: es =>
    let older := p.supersede (e :: es) (Consolidation.lastOccurred e es) window
    match receipt with
    | .tracked id => older.record id (e :: es)
    | _ => older

namespace Consolidation

variable (ch : Channel σ) (window : Span) (c : Consolidation σ)

theorem announce_of_ne {category : Category} (hcategory : category ≠ .outage)
    (receipt : Receipt) : ∃ ns t,
      Announcement receipt category (ofCategory c.remaining category) ns ∧
      c.announce ch window category = { c with channel := t, notices := c.notices ++ ns } := by
  rw [announce, ← ofCategory]
  cases hes : ofCategory c.remaining category with
  | nil => exact ⟨[], c.channel, .silent, by simp⟩
  | cons e es =>
    cases hsend : ch.send (Alert.groupText (e :: es)) c.channel with
    | mk ok t =>
      refine ⟨_, t, .plain ok hcategory (by simp), ?_⟩
      simp only [if_neg hcategory, hsend, note]

theorem announce_outage : ∃ receipt ns t,
    Announcement receipt .outage (ofCategory c.remaining .outage) ns ∧
    c.announce ch window .outage =
      { c with
        channel := t
        pending := c.pending.announced window receipt (ofCategory c.remaining .outage)
        notices := c.notices ++ ns } := by
  rw [announce, ← ofCategory]
  cases hes : ofCategory c.remaining .outage with
  | nil => exact ⟨.failed, [], c.channel, .silent, by simp [Pending.announced]⟩
  | cons e es =>
    cases hsend : ch.sendTracked (Alert.groupText (e :: es)) c.channel with
    | mk receipt t =>
      refine ⟨receipt, _, t, .tracked (by simp), ?_⟩
      cases receipt <;> simp [hsend, note, Pending.announced]

theorem foldl_announce_of_ne (receipt : Receipt) : ∀ (categories : List Category)
    (_ : ∀ k ∈ categories, k ≠ .outage) (c : Consolidation σ), ∃ nss t,
      List.Forall₂ (fun k ns => Announcement receipt k (ofCategory c.remaining k) ns)
        categories nss ∧
      categories.foldl (announce ch window) c =
        { c with channel := t, notices := c.notices ++ nss.flatten } := by
  intro categories
  induction categories with
  | nil => intro _ c; exact ⟨[], c.channel, .nil, by simp⟩
  | cons k categories ih =>
    intro hne c
    obtain ⟨ns, t, hns, hannounce⟩ := announce_of_ne ch window c (hne k List.mem_cons_self) receipt
    obtain ⟨nss, u, hnss, hfold⟩ := ih (fun k' hk' => hne k' (List.mem_cons_of_mem _ hk'))
      (c.announce ch window k)
    rw [hannounce] at hnss hfold
    refine ⟨ns :: nss, u, .cons hns hnss, ?_⟩
    rw [List.foldl_cons, hannounce, hfold]
    simp

/-- **The new messages.** There is one announcement for each category, in the order of the
categories; the one about outages decides what is pending afterwards. -/
theorem foldl_announce : ∃ receipt nss t,
    List.Forall₂ (fun k ns => Announcement receipt k (ofCategory c.remaining k) ns)
      Category.all nss ∧
    Category.all.foldl (announce ch window) c =
      { c with
        channel := t
        pending := c.pending.announced window receipt (ofCategory c.remaining .outage)
        notices := c.notices ++ nss.flatten } := by
  -- The receipt is that of the second message, and the others allow for any.
  let first : Consolidation σ := c.announce ch window ⟨.down, .initialCheck⟩
  let second : Consolidation σ := first.announce ch window .outage
  obtain ⟨receipt, ns₂, t₂, h₂, heq₂⟩ := announce_outage ch window first
  obtain ⟨ns₁, t₁, h₁, heq₁⟩ :=
    announce_of_ne ch window c (show ⟨.down, .initialCheck⟩ ≠ Category.outage by decide) receipt
  obtain ⟨nss, t, hnss, heq⟩ := foldl_announce_of_ne ch window receipt
    [⟨.recovered, .initialCheck⟩, .recovery] (by decide) second
  have hfirst : first = { c with channel := t₁, notices := c.notices ++ ns₁ } := heq₁
  have hsecond : second = first.announce ch window .outage := rfl
  rw [hsecond, heq₂, hfirst] at hnss heq
  rw [hfirst] at h₂
  refine ⟨receipt, ns₁ :: ns₂ :: nss, t, .cons h₁ (.cons h₂ hnss), ?_⟩
  change [⟨.recovered, .initialCheck⟩, .recovery].foldl (announce ch window) second = _
  rw [hsecond, heq₂, hfirst, heq]
  simp

end Consolidation

/-! ### Whole batches -/

theorem SingleEdits.sublist {window : Span} {m : NameMap PendingSingle} {es left : List Event}
    {ns : List Notice} (h : SingleEdits window m es ns left) : left.Sublist es := by
  induction h with
  | nil => exact .slnil
  | missed _ _ ih => exact ih.cons_cons _
  | edited ok _ _ ih =>
    cases ok with
    | true => exact ih.cons _
    | false => exact ih.cons_cons _

theorem GroupEdit.sublist {g? : Option PendingGroup} {es left : List Event} {ns : List Notice}
    (h : GroupEdit g? es ns left) : left.Sublist es := by
  cases h with
  | missed => exact .refl _
  | edited ok => cases ok <;> simp

/-- What the edits leave of the recoveries does not add to the other categories. -/
theorem ofCategory_others_append {events rest : List Event} (hrest : rest.Sublist (recoveries events))
    {category : Category} (hcategory : category ≠ .recovery) :
    ofCategory (others events ++ rest) category = ofCategory events category := by
  have hnone : rest.filter (fun e => e.category = category) = [] := by
    refine List.filter_eq_nil_iff.mpr fun e he => ?_
    have hrecovery : e.category = .recovery := by
      exact (mem_recoveries.mp (hrest.subset he)).2
    simpa [hrecovery] using hcategory.symm
  rw [ofCategory, ofCategory, List.filter_append, hnone, List.append_nil, others, List.filter_filter]
  congr 1
  refine List.filter_congr fun e _ => ?_
  by_cases hk : e.category = category <;> simp [hk, hcategory]

/-- What the edits of a batch leave pending. -/
def Pending.edited (p : Pending) (window : Span) (events left : List Event) : Pending :=
  { singles := consume p.singles (recoveries events), groups := p.unanswered window left }

/-- A batch after its edits, when new messages are about to be sent. -/
def afterEdits (ch : Channel σ) (window : Span) (s : σ) (p : Pending) (events : List Event) :
    Consolidation σ :=
  (events.foldl (Consolidation.resolve ch window) { channel := s, pending := p }).resolveGroup
    ch window

/-- New messages follow the edits. -/
theorem deliver_eq_foldl (ch : Channel σ) (window : Span) (s : σ) (p : Pending)
    (events : List Event) :
    deliver ch window s p events =
      Category.all.foldl (Consolidation.announce ch window) (afterEdits ch window s p events) :=
  rfl

/-- **The edits of a batch**: first those of messages about one target, then the one of a message
about a group. -/
theorem afterEdits_eq (ch : Channel σ) (window : Span) (s : σ) (p : Pending)
    (events : List Event) :
    ∃ singles left grouped rest t,
      SingleEdits window p.singles (recoveries events) singles left ∧
      GroupEdit (p.answering window left) left grouped rest ∧
      afterEdits ch window s p events =
        { channel := t
          pending := p.edited window events left
          notices := singles ++ grouped
          leftover := []
          remaining := others events ++ rest } := by
  -- the second pass begins where the first one has stopped
  obtain ⟨singles, left, t₁, hsingles, heq₁⟩ :=
    Consolidation.foldl_resolve ch window events { channel := s, pending := p }
  obtain ⟨grouped, rest, t₂, hgrouped, heq₂⟩ := Consolidation.resolveGroup_eq ch window
    (events.foldl (Consolidation.resolve ch window) { channel := s, pending := p })
  rw [heq₁] at hgrouped
  simp only [List.nil_append] at hgrouped
  refine ⟨singles, left, grouped, rest, t₂, hsingles, hgrouped, ?_⟩
  rw [afterEdits, heq₂, heq₁]
  rfl

/-- **A whole batch.** First come the edits of messages about one target, then the edit of a
message about a group, then the new messages about all events that are left. -/
theorem deliver_eq (ch : Channel σ) (window : Span) (s : σ) (p : Pending) (events : List Event) :
    ∃ singles left grouped rest receipt nss t,
      SingleEdits window p.singles (recoveries events) singles left ∧
      GroupEdit (p.answering window left) left grouped rest ∧
      List.Forall₂ (fun k ns => Announcement receipt k (ofCategory (others events ++ rest) k) ns)
        Category.all nss ∧
      deliver ch window s p events =
        { channel := t
          pending := (p.edited window events left).announced window receipt
            (ofCategory events .outage)
          notices := singles ++ grouped ++ nss.flatten
          leftover := []
          remaining := others events ++ rest } := by
  obtain ⟨singles, left, grouped, rest, t₁, hsingles, hgrouped, heq₁⟩ :=
    afterEdits_eq ch window s p events
  obtain ⟨receipt, nss, t, hnss, heq⟩ :=
    Consolidation.foldl_announce ch window (afterEdits ch window s p events)
  rw [heq₁] at hnss
  refine ⟨singles, left, grouped, rest, receipt, nss, t, hsingles, hgrouped, hnss, ?_⟩
  have hrest : rest.Sublist (recoveries events) := hgrouped.sublist.trans hsingles.sublist
  rw [deliver_eq_foldl, heq, heq₁]
  simp only [ofCategory_others_append hrest (show Category.outage ≠ .recovery by decide)]

end Uptime
