import Mathlib.Data.Finset.Card
import Mathlib.Data.List.Perm.Basic
import Uptime.Proofs.Alert.Coverage

/-!
# Every event is told once

Each event of a batch is settled by one call: by an edit that succeeds, or else by a new message,
which is not tried again if it fails. Events may be alike, so they are counted and not only
compared: the events of the calls that settle them are a rearrangement of the batch.

Two events of one target may be alike but for their times. Which of them an edit has told matters to
the message about the other; it is always the one that comes first in the batch. So the events
that are left for new messages are those of the batch without the ones that edits have told, where
of several copies the first is taken away, which is the difference of lists.

## Main definitions

* `Notice.settles`: a call settles the events that it tells.
* `resolvedBy`, `unresolved`: the events that edits have told, and the others.
* `NewMessage`: a new message about the events of one category.
* `Accounted`: how a batch is told.

## Main results

* `filter_unresolved`: what edits leave of each category.
* `deliver_accounted`: every batch is told so.
-/

namespace Uptime

variable {σ : Type}

/-- A call settles the events that it tells: a new message does so whatever becomes of it, an edit
if it succeeds. -/
def Notice.settles (n : Notice) : Bool := !n.call.isEdit || n.call.succeeded

/-- The events that are told by edits that have succeeded. -/
def resolvedBy (notices : List Notice) : List Event :=
  (notices.filter fun n => n.call.isEdit && n.call.succeeded).flatMap Notice.events

/-- The events of a batch that no edit has told. Of several copies the first ones are told. -/
def unresolved (events : List Event) (notices : List Notice) : List Event :=
  events.diff (resolvedBy notices)

theorem resolvedBy_append (ns more : List Notice) :
    resolvedBy (ns ++ more) = resolvedBy ns ++ resolvedBy more := by
  simp [resolvedBy]

/-- New messages are no edits. -/
theorem resolvedBy_eq_nil {ns : List Notice} (h : ∀ n ∈ ns, n.call.isEdit = false) :
    resolvedBy ns = [] := by
  rw [resolvedBy, List.filter_eq_nil_iff.mpr fun n hn => by simp [h n hn]]
  rfl

theorem resolvedBy_single_cons (e : Event) (q : PendingSingle) (ok : Bool) (ns : List Notice) :
    resolvedBy (.single e q ok :: ns) = (if ok then [e] else []) ++ resolvedBy ns := by
  cases ok <;> simp [resolvedBy, Notice.single, Call.isEdit, Call.succeeded]

theorem resolvedBy_group (es : List Event) (g : PendingGroup) (ok : Bool) :
    resolvedBy [.group es g ok] = if ok then es else [] := by
  cases ok <;> simp [resolvedBy, Notice.group, Call.isEdit, Call.succeeded]

/-! ### What the edits leave -/

section Edits

variable {window : Span} {m : NameMap PendingSingle} {es left rest : List Event} {ns : List Notice}

/-- The edits about single targets tell some recoveries and leave the others. -/
theorem SingleEdits.perm (h : SingleEdits window m es ns left) :
    (resolvedBy ns ++ left).Perm es := by
  induction h with
  | nil => exact .refl _
  | missed _ _ ih => exact List.perm_middle.trans (ih.cons _)
  | edited ok _ _ ih =>
    rw [resolvedBy_single_cons]
    cases ok with
    | true => exact ih.cons _
    | false => exact List.perm_middle.trans (ih.cons _)

/-- The edits after a look-up are about recoveries of other targets. -/
theorem SingleEdits.notMem_resolvedBy {key : String}
    (h : SingleEdits window (m.erase key) es ns left) {e : Event} (he : e.target = key) :
    e ∉ resolvedBy ns := by
  intro hmem
  obtain ⟨n, hn, hevents⟩ := List.mem_flatMap.mp hmem
  obtain ⟨e', -, q, ok, hrecord, rfl⟩ := h.exists_of_mem n (List.mem_filter.mp hn).1
  obtain rfl : e = e' := List.mem_singleton.mp hevents
  rw [recordIn, NameMap.find?_erase, if_pos he] at hrecord
  cases hrecord

/-- **What they leave is the difference**: no record is found twice, so an edit about a target is
about its first recovery. -/
theorem SingleEdits.left_eq_diff (h : SingleEdits window m es ns left) :
    left = es.diff (resolvedBy ns) := by
  induction h with
  | nil => rfl
  | missed _ rest ih =>
    rw [List.cons_diff_of_not_mem (rest.notMem_resolvedBy rfl), ih]
  | edited ok _ rest ih =>
    rw [resolvedBy_single_cons]
    cases ok with
    | true => simpa using ih
    | false =>
      rw [if_neg (by decide), if_neg (by decide), List.nil_append,
        List.cons_diff_of_not_mem (rest.notMem_resolvedBy rfl), ih]

/-- The edit about a group tells all recoveries that are left to it or none. -/
theorem GroupEdit.perm {g? : Option PendingGroup} (h : GroupEdit g? es ns left) :
    (resolvedBy ns ++ left).Perm es := by
  cases h with
  | missed => exact .refl _
  | edited ok =>
    rw [resolvedBy_group]
    cases ok <;> simp

theorem GroupEdit.left_eq_diff {g? : Option PendingGroup} (h : GroupEdit g? es ns left) :
    left = es.diff (resolvedBy ns) := by
  cases h with
  | missed => rfl
  | @edited g _ ok =>
    rw [resolvedBy_group]
    cases ok with
    | false => rfl
    | true =>
      -- nothing is left of a list without itself
      have hperm : (es ++ es.diff es).Perm es :=
        List.subperm_append_diff_self_of_count_le fun _ _ => le_refl _
      have hlength := hperm.length_eq
      rw [List.length_append, Nat.add_eq_left, List.length_eq_zero_iff] at hlength
      rw [if_pos rfl, if_pos rfl, hlength]

/-- Both passes together tell some recoveries and leave the others. -/
theorem perm_of_edits {singles grouped : List Notice} {g? : Option PendingGroup}
    (hsingles : SingleEdits window m es singles left) (hgrouped : GroupEdit g? left grouped rest) :
    (resolvedBy (singles ++ grouped) ++ rest).Perm es := by
  rw [resolvedBy_append, List.append_assoc]
  exact (hgrouped.perm.append_left _).trans hsingles.perm

theorem rest_eq_diff_of_edits {singles grouped : List Notice} {g? : Option PendingGroup}
    (hsingles : SingleEdits window m es singles left) (hgrouped : GroupEdit g? left grouped rest) :
    rest = es.diff (resolvedBy (singles ++ grouped)) := by
  rw [resolvedBy_append, List.diff_append, ← hsingles.left_eq_diff, ← hgrouped.left_eq_diff]

end Edits

/-- A difference can be taken within the members of one kind. -/
private theorem filter_diff {α : Type} [DecidableEq α] (p : α → Bool) : ∀ ys xs : List α,
    (xs.diff ys).filter p = (xs.filter p).diff (ys.filter p) := by
  have herase : ∀ (y : α) (xs : List α),
      (xs.erase y).filter p = if p y then (xs.filter p).erase y else xs.filter p := by
    intro y xs
    induction xs with
    | nil => simp
    | cons x xs ih =>
      by_cases hxy : x = y
      · subst hxy
        by_cases hx : p x <;> simp [hx]
      · rw [List.erase_cons_tail (by simpa using hxy), List.filter_cons, List.filter_cons, ih]
        by_cases hx : p x <;> by_cases hy : p y <;> simp [hx, hy, hxy]
  intro ys
  induction ys with
  | nil => intro xs; rfl
  | cons y ys ih =>
    intro xs
    rw [List.diff_cons, ih, herase]
    by_cases hy : p y <;> simp [hy]

/-- **What edits leave of a category.** They take recoveries only, and so leave the other
categories as they are. -/
theorem filter_unresolved {events rest : List Event} {notices : List Notice}
    (hresolved : ∀ e ∈ resolvedBy notices, e.category = .recovery)
    (hrest : rest = (recoveries events).diff (resolvedBy notices)) (category : Category) :
    (unresolved events notices).filter (fun e => e.category = category) =
      (others events ++ rest).filter fun e => e.category = category := by
  rw [unresolved, filter_diff, List.filter_append, others, List.filter_filter]
  have hrecovery : ∀ e ∈ rest, e.category = .recovery := by
    rw [hrest]
    exact fun e he => (mem_recoveries.mp (List.diff_subset _ _ he)).2
  by_cases hcategory : category = .recovery
  · -- all that was told and all that is left is of this category
    subst hcategory
    have hall : (resolvedBy notices).filter (fun e => e.category = .recovery) =
        resolvedBy notices :=
      List.filter_eq_self.mpr (by simpa using hresolved)
    have hself : rest.filter (fun e => e.category = .recovery) = rest :=
      List.filter_eq_self.mpr (by simpa using hrecovery)
    have hnone : (events.filter fun e =>
        decide (e.category = .recovery) && decide (e.category ≠ .recovery)) = [] :=
      List.filter_eq_nil_iff.mpr (by simp)
    rw [hall, hself, hnone, List.nil_append, hrest, recoveries]
  · -- and nothing of it is of another one
    have hnone : ∀ es : List Event, (∀ e ∈ es, e.category = .recovery) →
        es.filter (fun e => e.category = category) = [] := by
      intro es hes
      refine List.filter_eq_nil_iff.mpr fun e he => ?_
      rw [hes e he]
      simpa using Ne.symm hcategory
    rw [hnone _ hresolved, hnone _ hrecovery, List.diff_nil, List.append_nil]
    refine List.filter_congr fun e _ => ?_
    by_cases he : e.category = category <;> simp [he, hcategory]

/-! ### New messages -/

/-- A new message about some events of one category. It tells all of them, in the order of names and
those of one name in the order in which they came, and asks for its number if they are outages. -/
structure NewMessage (category : Category) (es : List Event) (n : Notice) : Prop where
  perm : n.events.Perm es
  ordered : n.events.Pairwise fun a b => a.target ≤ b.target
  stable : ∀ name, (n.events.filter fun e => e.target = name) = es.filter fun e => e.target = name
  call_eq : if category = .outage
    then ∃ receipt, n.call = .sendTracked (Alert.groupText n.events) receipt
    else ∃ ok, n.call = .send (Alert.groupText n.events) ok

/-- A category is told by one message if it has events, and not at all if it has none. -/
theorem Announcement.newMessage {receipt : Receipt} {category : Category} {es : List Event}
    {ns : List Notice} (h : Announcement receipt category (ofCategory es category) ns) :
    if category ∈ es.map Event.category
    then ∃ n, ns = [n] ∧ NewMessage category (es.filter fun e => e.category = category) n
    else ns = [] := by
  have hempty : ofCategory es category = [] ↔ category ∉ es.map Event.category := by
    rw [List.eq_nil_iff_forall_not_mem]
    simp [mem_ofCategory]
  have hordered := pairwise_sortByName Event.target (es.filter fun e => e.category = category)
  have hperm := sortByName_perm Event.target (es.filter fun e => e.category = category)
  have hstable := filter_sortByName Event.target (es.filter fun e => e.category = category)
  rw [← ofCategory] at hordered hperm hstable
  generalize ofCategory es category = told at *
  cases h with
  | silent => rw [if_neg (hempty.mp rfl)]
  | plain ok hcategory hne =>
    rw [if_pos (by simpa [hne] using hempty)]
    exact ⟨_, rfl, hperm, hordered, hstable, by rw [if_neg hcategory]; exact ⟨ok, rfl⟩⟩
  | tracked hne =>
    rw [if_pos (by simpa [hne] using hempty)]
    exact ⟨_, rfl, hperm, hordered, hstable, receipt, rfl⟩

/-- There is one new message for each category that has events, in the order of the categories. -/
theorem forall₂_newMessage {receipt : Receipt} {es : List Event} {categories : List Category}
    {nss : List (List Notice)}
    (h : List.Forall₂ (fun k ns => Announcement receipt k (ofCategory es k) ns) categories nss) :
    List.Forall₂ (fun k n => NewMessage k (es.filter fun e => e.category = k) n)
      (categories.filter fun k => k ∈ es.map Event.category) nss.flatten := by
  induction h with
  | nil => exact .nil
  | @cons k ns categories nss hns _ ih =>
    have hmessage := hns.newMessage
    rw [List.flatten_cons, List.filter_cons]
    by_cases hk : k ∈ es.map Event.category
    · rw [if_pos hk] at hmessage
      obtain ⟨n, rfl, hn⟩ := hmessage
      rw [if_pos (by simpa using hk)]
      exact .cons hn ih
    · rw [if_neg hk] at hmessage
      rw [hmessage, if_neg (by simpa using hk)]
      exact ih

/-- The categories that have events are as many as the categories of the events. -/
theorem length_filter_categories (es : List Event) :
    (Category.all.filter fun k => k ∈ es.map Event.category).length =
      (es.map Event.category).toFinset.card := by
  have hnodup : (Category.all.filter fun k => k ∈ es.map Event.category).Nodup :=
    List.Nodup.filter _ (by decide)
  rw [← List.toFinset_card_of_nodup hnodup]
  congr 1
  ext k
  simp [Category.mem_all]

/-! ### Whole batches -/

/-- How a batch is told: `edits` are the edits and `fresh` the new messages. -/
structure Accounted (ch : Channel σ) (s : σ) (events : List Event) (told : Consolidation σ)
    (edits fresh : List Notice) : Prop where
  /-- Edits come before new messages. -/
  notices_eq : told.notices = edits ++ fresh
  /-- An edit is about one recovery or about those of a group. -/
  eq_single_or_group : ∀ n ∈ edits,
    (∃ e q ok, n = .single e q ok) ∨ ∃ es g ok, n = .group es g ok
  isEdit_fresh : ∀ n ∈ fresh, n.call.isEdit = false
  /-- The recorded answers are those of the channel. -/
  conversation : ch.Conversation s (told.notices.map Notice.call) told.channel
  /-- Every event is settled by one call. -/
  perm_settled : ((told.notices.filter Notice.settles).flatMap Notice.events).Perm events
  /-- There is one new message for each category of which edits leave events, in the order of
  the categories, and it is about those. -/
  forall_fresh : List.Forall₂
    (fun k n => NewMessage k ((unresolved events told.notices).filter fun e => e.category = k) n)
    (Category.all.filter fun k => k ∈ (unresolved events told.notices).map Event.category) fresh
  /-- So there are as few new messages as there can be. -/
  length_fresh :
    fresh.length = ((unresolved events told.notices).map Event.category).toFinset.card

/-- The calls that settle events are the edits that succeed and the new messages. -/
theorem flatMap_settled {edits fresh : List Notice} (hedits : ∀ n ∈ edits, n.call.isEdit = true)
    (hfresh : ∀ n ∈ fresh, n.call.isEdit = false) :
    ((edits ++ fresh).filter Notice.settles).flatMap Notice.events =
      resolvedBy edits ++ fresh.flatMap Notice.events := by
  have hsucceeded : edits.filter Notice.settles =
      edits.filter fun n => n.call.isEdit && n.call.succeeded :=
    List.filter_congr fun n hn => by simp [Notice.settles, hedits n hn]
  have hall : fresh.filter Notice.settles = fresh :=
    List.filter_eq_self.mpr fun n hn => by simp [Notice.settles, hfresh n hn]
  rw [List.filter_append, List.flatMap_append, hsucceeded, hall, resolvedBy]

/-- **Every event of a batch is told once**, and in as few messages as possible. -/
theorem deliver_accounted (ch : Channel σ) (window : Span) (s : σ) (p : Pending)
    (events : List Event) :
    ∃ edits fresh, Accounted ch s events (deliver ch window s p events) edits fresh := by
  obtain ⟨singles, left, grouped, rest, receipt, nss, t, hsingles, hgrouped, hnss, heq⟩ :=
    deliver_eq ch window s p events
  have hedits := isEdit_of_edits hsingles hgrouped
  have hfresh := isEdit_of_announcements hnss
  have hnotices : (deliver ch window s p events).notices = singles ++ grouped ++ nss.flatten := by
    rw [heq]
  have hresolvedBy : resolvedBy (singles ++ grouped ++ nss.flatten) =
      resolvedBy (singles ++ grouped) := by
    rw [resolvedBy_append, resolvedBy_eq_nil hfresh, List.append_nil]
  have hperm := perm_of_edits hsingles hgrouped
  have hrest := rest_eq_diff_of_edits hsingles hgrouped
  have hresolved : ∀ e ∈ resolvedBy (singles ++ grouped), e.category = .recovery := fun e he =>
    (mem_recoveries.mp (hperm.subset (List.mem_append_left rest he))).2
  -- the new messages are about what the passes leave, category by category
  rw [← hresolvedBy] at hrest hresolved
  have hannouncements : List.Forall₂ (fun k ns => Announcement receipt k
      (ofCategory (unresolved events (singles ++ grouped ++ nss.flatten)) k) ns) Category.all nss :=
    hnss.imp fun k ns hns => by
      rwa [ofCategory, ← filter_unresolved hresolved hrest, ← ofCategory] at hns
  have hmessages := forall₂_newMessage hannouncements
  refine ⟨singles ++ grouped, nss.flatten, hnotices,
    eq_single_or_group_of_edits hsingles hgrouped, hfresh, deliver_conversation .., ?_, ?_, ?_⟩
  · rw [hnotices, flatMap_settled hedits hfresh, flatMap_events_of_announcements hnss]
    refine ((perm_flatMap_ofCategory _).append_left _).trans ?_
    -- the recoveries that are left join those that have been told
    refine (List.perm_append_comm.append_left _).trans ?_
    rw [← List.append_assoc]
    exact (hperm.append_right _).trans (perm_recoveries_append_others events)
  · rw [hnotices]
    exact hmessages
  · rw [hnotices, ← length_filter_categories]
    exact hmessages.length_eq.symm

end Uptime
