import Mathlib.Data.List.Perm.Basic
import Uptime.Proofs.Alert.Coverage

/-!
# The order of a batch

Probes end in any order, and so the events of a cycle come in any order. If no two of them are
about one target, and the channel does not answer by the order either, the order makes no
difference: the same messages are edited with the same texts, the same new messages are sent in the
same order, and the same is pending afterwards. The edits of messages about single targets come in
the order of the batch, and nothing else does.

Two runs are compared pass by pass. The edits are determined by the records and by the numbers of
their messages. What they leave is a rearrangement, and the message about it is in the order of
names.

## Main definitions

* `Channel.Orderly`: what a channel answers does not depend on the order of edits.
* `InStep`: two batches between their edits and their new messages, of which the same will be told.
* `Alike`: two ways of telling a batch that differ in the order of edits at most.

## Main results

* `groupRecoveredText_of_perm`: a message about a group is the same for every order of recoveries.
* `exists_alike_afterEdits`: the edits of a batch and of a rearrangement of it.
* `InStep.foldl_announce`: the new messages of two batches that are in step.
* `deliver_of_perm`: a batch and a rearrangement of it are told alike.
-/

namespace Uptime

variable {σ τ : Type}

/-! ### Channels that do not answer by the order of edits -/

namespace Channel

/-- Whether an edit succeeds depends on the number of the message only, and the answers to new
messages depend on a part of the state that edits leave alone, here shown by `view`. If those
answers are a fixed sequence, it shows how many messages were sent. -/
structure Orderly (ch : Channel σ) (editable : MessageId → Bool) (view : σ → τ) : Prop where
  edit : ∀ id text s, (ch.edit id text s).1 = editable id ∧ view (ch.edit id text s).2 = view s
  send : ∀ text s t, view s = view t →
    (ch.send text s).1 = (ch.send text t).1 ∧ view (ch.send text s).2 = view (ch.send text t).2
  sendTracked : ∀ text s t, view s = view t →
    (ch.sendTracked text s).1 = (ch.sendTracked text t).1 ∧
      view (ch.sendTracked text s).2 = view (ch.sendTracked text t).2

/-- The channel that answers edits by the number of the message, and new messages by a fixed
sequence of receipts. Its state is the number of messages that were sent. -/
def ofReceipts (editable : MessageId → Bool) (receipts : Nat → Receipt) : Channel Nat where
  send _ sent := ((receipts sent).delivered, sent + 1)
  sendTracked _ sent := (receipts sent, sent + 1)
  edit id _ sent := (editable id, sent)
  sendTo _ _ sent := (true, sent)

theorem orderly_ofReceipts (editable : MessageId → Bool) (receipts : Nat → Receipt) :
    (ofReceipts editable receipts).Orderly editable id where
  edit _ _ _ := ⟨rfl, rfl⟩
  send _ s t h := by
    obtain rfl : s = t := h
    exact ⟨rfl, rfl⟩
  sendTracked _ s t h := by
    obtain rfl : s = t := h
    exact ⟨rfl, rfl⟩

variable {ch : Channel σ} {editable : MessageId → Bool} {view : σ → τ}

/-- A conversation that consists of edits changes nothing that new messages depend on. -/
theorem Orderly.of_conversation (h : ch.Orderly editable view) : ∀ (calls : List Call) (s t : σ),
    ch.Conversation s calls t → (∀ call ∈ calls, call.isEdit = true) →
      view t = view s ∧ ∀ id text ok, .edit id text ok ∈ calls → ok = editable id := by
  intro calls
  induction calls with
  | nil =>
    intro s t hst _
    obtain rfl : s = t := hst
    exact ⟨rfl, fun _ _ _ hmem => absurd hmem List.not_mem_nil⟩
  | cons call calls ih =>
    rintro s t ⟨u, hcall, hrest⟩ hedits
    obtain ⟨hview, hoks⟩ := ih u t hrest fun c hc => hedits c (List.mem_cons_of_mem _ hc)
    cases call with
    | edit id text ok =>
      obtain ⟨hok, hstate⟩ := h.edit id text s
      have hanswer : ch.edit id text s = (ok, u) := hcall
      rw [hanswer] at hok hstate
      refine ⟨hview.trans hstate, fun id' text' ok' hmem => ?_⟩
      rcases List.mem_cons.mp hmem with heq | hmem
      · cases heq
        exact hok
      · exact hoks id' text' ok' hmem
    | send | sendTracked | sendTo => cases hedits _ List.mem_cons_self

end Channel

/-! ### The edits of a rearrangement -/

theorem perm_recoveries {events events' : List Event} (h : events.Perm events') :
    (recoveries events).Perm (recoveries events') :=
  h.filter _

/-- Which records are used up does not depend on the order of the recoveries. -/
theorem consume_eq_filter (m : NameMap PendingSingle) (es : List Event) :
    consume m es = m.filter fun entry => entry.1 ∉ es.map Event.target := by
  induction es generalizing m with
  | nil => simp [consume]
  | cons e es ih =>
    have hstep : consume m (e :: es) = consume (m.erase e.target) es := rfl
    rw [hstep, ih, NameMap.erase, List.filter_filter]
    refine List.filter_congr fun entry _ => ?_
    rw [← Bool.decide_and, decide_eq_decide, List.map_cons, List.mem_cons, not_or]
    exact and_comm

theorem consume_of_perm (m : NameMap PendingSingle) {es es' : List Event} (h : es.Perm es') :
    consume m es = consume m es' := by
  rw [consume_eq_filter, consume_eq_filter]
  refine List.filter_congr fun entry _ => ?_
  rw [decide_eq_decide, (h.map Event.target).mem_iff]

theorem PendingGroup.answers_of_perm {g : PendingGroup} {window : Span} {es es' : List Event}
    (h : es.Perm es') : g.Answers es window ↔ g.Answers es' window := by
  rw [Answers, Answers, h.length_eq]
  refine and_congr_right fun _ => ?_
  simp only [h.mem_iff]

private theorem eq_nil_iff_of_perm {α : Type} {xs ys : List α} (h : xs.Perm ys) :
    xs = [] ↔ ys = [] := by
  rw [← List.length_eq_zero_iff, h.length_eq, List.length_eq_zero_iff]

theorem Pending.answering_of_perm (p : Pending) (window : Span) {es es' : List Event}
    (h : es.Perm es') : p.answering window es = p.answering window es' := by
  simp only [answering, eq_nil_iff_of_perm h, PendingGroup.answers_of_perm h]

theorem Pending.unanswered_of_perm (p : Pending) (window : Span) {es es' : List Event}
    (h : es.Perm es') : p.unanswered window es = p.unanswered window es' := by
  simp only [unanswered, eq_nil_iff_of_perm h, PendingGroup.answers_of_perm h]

/-- **A message about a group is the same for every order of the recoveries**: its time is that of
the last one, and its lines are in the order of names. -/
theorem groupRecoveredText_of_perm (g : PendingGroup) {es es' : List Event} (h : es.Perm es')
    (hd : (es.map Event.target).Nodup) (hcategory : ∀ e ∈ es, e.category = .recovery) :
    Alert.groupRecoveredText g es = Alert.groupRecoveredText g es' := by
  match es, es' with
  | [], [] => rfl
  | [], _ :: _ => exact absurd h.length_eq (by simp)
  | _ :: _, [] => exact absurd h.length_eq (by simp)
  | e :: es, e' :: es' =>
    -- the text takes the reason of the first recovery, which is that of any other
    have hlength : es.length = es'.length := by simpa using h.length_eq
    have hreason : e.reason = e'.reason := by
      have he := hcategory e List.mem_cons_self
      have he' := hcategory e' (h.mem_iff.mpr List.mem_cons_self)
      exact congrArg Category.reason (he.trans he'.symm)
    have hlast : es.foldl (fun t e => Instant.later t e.occurred) e.occurred =
        es'.foldl (fun t e => Instant.later t e.occurred) e'.occurred :=
      (isLatest_lastOccurred e es).eq (isLatest_lastOccurred e' es') fun _ => h.mem_iff
    rw [Alert.groupRecoveredText, Alert.groupRecoveredText, hlength, hreason, hlast,
      sortByName_eq_of_perm h hd]

/-- The edits succeed according to the numbers of their messages. -/
def AnsweredBy (editable : MessageId → Bool) (ns : List Notice) : Prop :=
  ∀ n ∈ ns, ∀ id text ok, n.call = .edit id text ok → ok = editable id

theorem answeredBy_append {editable : MessageId → Bool} {ns more : List Notice} :
    AnsweredBy editable (ns ++ more) ↔ AnsweredBy editable ns ∧ AnsweredBy editable more :=
  List.forall_mem_append

/-- The edits of a batch on an orderly channel. -/
theorem afterEdits_eq_of_orderly {ch : Channel σ} {editable : MessageId → Bool} {view : σ → τ}
    (hch : ch.Orderly editable view) (window : Span) (s : σ) (p : Pending) (events : List Event) :
    ∃ singles left grouped rest t,
      SingleEdits window p.singles (recoveries events) singles left ∧
      GroupEdit (p.answering window left) left grouped rest ∧
      AnsweredBy editable (singles ++ grouped) ∧ view t = view s ∧
      afterEdits ch window s p events =
        { channel := t
          pending := p.edited window events left
          notices := singles ++ grouped
          leftover := []
          remaining := others events ++ rest } := by
  obtain ⟨singles, left, grouped, rest, t, hsingles, hgrouped, heq⟩ :=
    afterEdits_eq ch window s p events
  have hresolved : (events.foldl (Consolidation.resolve ch window)
      { channel := s, pending := p }).Faithful ch s :=
    List.foldlRecOn events _ rfl fun _ h e _ => h.resolve e
  have hconversation : (afterEdits ch window s p events).Faithful ch s := hresolved.resolveGroup
  rw [heq] at hconversation
  obtain ⟨hview, hoks⟩ := hch.of_conversation _ _ _ hconversation
    (List.forall_mem_map.mpr (isEdit_of_edits hsingles hgrouped))
  refine ⟨singles, left, grouped, rest, t, hsingles, hgrouped, fun n hn id text ok hcall => ?_,
    hview, heq⟩
  exact hoks id text ok (hcall ▸ List.mem_map_of_mem hn)

/-- The edits of messages about single targets are determined by the records. -/
theorem SingleEdits.eq_map {window : Span} {m : NameMap PendingSingle} {es left : List Event}
    {ns : List Notice} {editable : MessageId → Bool} (h : SingleEdits window m es ns left)
    (hd : (es.map Event.target).Nodup) (hoks : AnsweredBy editable ns) :
    ns = (es.filterMap fun e => (recordIn m window e).map (e, ·)).map fun told =>
      Notice.single told.1 told.2 (editable told.2.messageId) := by
  have hall := h.forall₂ hd
  -- the records fix the edits but for the answers, and those come from the numbers
  generalize (es.filterMap fun e => (recordIn m window e).map (e, ·)) = records at hall
  clear h
  induction hall with
  | nil => rfl
  | cons hfirst _ ih =>
    obtain ⟨ok, rfl⟩ := hfirst
    obtain rfl := hoks _ List.mem_cons_self _ _ ok rfl
    rw [List.map_cons, ← ih fun n hn => hoks n (List.mem_cons_of_mem _ hn)]

/-- Recoveries in another order are told by the same edits and leave the same recoveries. -/
theorem SingleEdits.perm_of_perm {window : Span} {m : NameMap PendingSingle}
    {es es' left left' : List Event} {ns ns' : List Notice} {editable : MessageId → Bool}
    (h : SingleEdits window m es ns left) (h' : SingleEdits window m es' ns' left')
    (hperm : es.Perm es') (hd : (es.map Event.target).Nodup) (hoks : AnsweredBy editable ns)
    (hoks' : AnsweredBy editable ns') : ns.Perm ns' ∧ left.Perm left' := by
  have hd' : (es'.map Event.target).Nodup := (hperm.map _).nodup_iff.mp hd
  have hns : ns.Perm ns' := by
    rw [h.eq_map hd hoks, h'.eq_map hd' hoks']
    exact (hperm.filterMap _).map _
  refine ⟨hns, ?_⟩
  -- whether an edit has told a recovery only asks which edits there are
  rw [h.left_eq hd, h'.left_eq hd', untold, untold]
  have huntold : es.filter (fun e => ∀ n ∈ ns, n.events = [e] → n.call.succeeded = false) =
      es.filter fun e => ∀ n ∈ ns', n.events = [e] → n.call.succeeded = false :=
    List.filter_congr fun e _ => by simp only [hns.mem_iff]
  rw [huntold]
  exact hperm.filter _

/-- The edit about a group is the same for every order of the recoveries. -/
theorem GroupEdit.perm_of_perm {g? : Option PendingGroup} {es es' left left' : List Event}
    {ns ns' : List Notice} {editable : MessageId → Bool} (h : GroupEdit g? es ns left)
    (h' : GroupEdit g? es' ns' left') (hperm : es.Perm es') (hd : (es.map Event.target).Nodup)
    (hcategory : ∀ e ∈ es, e.category = .recovery) (hoks : AnsweredBy editable ns)
    (hoks' : AnsweredBy editable ns') :
    ns.map Notice.call = ns'.map Notice.call ∧ left.Perm left' := by
  cases h with
  | missed =>
    cases h'
    exact ⟨rfl, hperm⟩
  | @edited g _ ok =>
    cases h' with
    | edited ok' =>
      obtain rfl := hoks _ List.mem_cons_self _ _ ok rfl
      obtain rfl := hoks' _ List.mem_cons_self _ _ ok' rfl
      refine ⟨?_, ?_⟩
      · simp only [List.map_cons, List.map_nil, Notice.group,
          groupRecoveredText_of_perm g hperm hd hcategory]
      · cases editable g.messageId with
        | true => exact .refl _
        | false => exact hperm

theorem GroupEdit.length_le_one {g? : Option PendingGroup} {es left : List Event}
    {ns : List Notice} (h : GroupEdit g? es ns left) : ns.length ≤ 1 := by
  cases h <;> simp

/-! ### Two batches in step -/

/-- Two batches of which the same will be told: new messages get the same answers, the same is
pending, and the same events of each category are left. -/
structure InStep (view : σ → τ) (c d : Consolidation σ) : Prop where
  view_eq : view c.channel = view d.channel
  pending_eq : c.pending = d.pending
  ofCategory_eq : ∀ category, ofCategory c.remaining category = ofCategory d.remaining category

/-- Two ways of telling the events of a batch. They differ in the order of the edits about
single targets, and the edit about a group may tell its recoveries in another order. -/
structure Alike (notices notices' singles singles' grouped grouped' fresh : List Notice) :
    Prop where
  notices_eq : notices = singles ++ grouped ++ fresh
  notices_eq' : notices' = singles' ++ grouped' ++ fresh
  /-- First come the edits of messages about single targets. -/
  forall_singles : ∀ n ∈ singles, ∃ e q ok, n = .single e q ok
  perm_singles : singles.Perm singles'
  /-- Then there may be one edit of a message about a group. -/
  forall_grouped : ∀ n ∈ grouped, ∃ es g ok, n = .group es g ok
  length_grouped_le : grouped.length ≤ 1
  map_call_grouped : grouped.map Notice.call = grouped'.map Notice.call
  /-- Then come the new messages. -/
  isEdit_fresh : ∀ n ∈ fresh, n.call.isEdit = false

section TwoRuns

variable {ch : Channel σ} {editable : MessageId → Bool} {view : σ → τ}

/-- The edits leave the same events for new messages, whatever the order of the batch. -/
theorem ofCategory_others_append_of_perm {events events' rest rest' : List Event}
    (hperm : events.Perm events') (hd : (events.map Event.target).Nodup)
    (hrest : rest.Sublist (recoveries events)) (hperm_rest : rest.Perm rest')
    (category : Category) :
    ofCategory (others events ++ rest) category =
      ofCategory (others events' ++ rest') category := by
  have hleft : (others events ++ rest).Perm (others events' ++ rest') :=
    (hperm.filter _).append hperm_rest
  have hsplit : (others events ++ recoveries events).Perm events :=
    List.perm_append_comm.trans (perm_recoveries_append_others events)
  have hnodup : ((others events ++ rest).map Event.target).Nodup :=
    ((hsplit.map Event.target).nodup_iff.mpr hd).sublist ((hrest.append_left _).map _)
  exact sortByName_eq_of_perm (hleft.filter _) (hnodup.sublist (List.filter_sublist.map _))

/-- **The edits of a batch and of a rearrangement of it** are alike and leave the same for the new
messages. -/
theorem exists_alike_afterEdits (hch : ch.Orderly editable view) (window : Span) {s s' : σ}
    (hs : view s = view s') (p : Pending) {events events' : List Event}
    (hperm : events.Perm events') (hd : (events.map Event.target).Nodup) :
    ∃ singles singles' grouped grouped',
      Alike (afterEdits ch window s p events).notices (afterEdits ch window s' p events').notices
        singles singles' grouped grouped' [] ∧
      InStep view (afterEdits ch window s p events) (afterEdits ch window s' p events') := by
  obtain ⟨singles, left, grouped, rest, t, hsingles, hgrouped, hoks, hview, heq⟩ :=
    afterEdits_eq_of_orderly hch window s p events
  obtain ⟨singles', left', grouped', rest', t', hsingles', hgrouped', hoks', hview', heq'⟩ :=
    afterEdits_eq_of_orderly hch window s' p events'
  obtain ⟨hsingleOks, hgroupOks⟩ := answeredBy_append.mp hoks
  obtain ⟨hsingleOks', hgroupOks'⟩ := answeredBy_append.mp hoks'
  obtain ⟨hpermSingles, hpermLeft⟩ := hsingles.perm_of_perm hsingles' (perm_recoveries hperm)
    (nodup_recoveries hd) hsingleOks hsingleOks'
  have hleft : (left.map Event.target).Nodup :=
    (nodup_recoveries hd).sublist (hsingles.sublist.map _)
  have hcategory : ∀ e ∈ left, e.category = .recovery := fun e he =>
    (mem_recoveries.mp (hsingles.sublist.subset he)).2
  -- both batches bring the same group back
  rw [← p.answering_of_perm window hpermLeft] at hgrouped'
  obtain ⟨hcalls, hpermRest⟩ := hgrouped.perm_of_perm hgrouped' hpermLeft hleft hcategory
    hgroupOks hgroupOks'
  have hpending : p.edited window events left = p.edited window events' left' := by
    rw [Pending.edited, Pending.edited, consume_of_perm _ (perm_recoveries hperm),
      p.unanswered_of_perm window hpermLeft]
  have halike : Alike (singles ++ grouped) (singles' ++ grouped') singles singles' grouped grouped'
      [] :=
    { notices_eq := (List.append_nil _).symm
      notices_eq' := (List.append_nil _).symm
      forall_singles := fun n hn => by
        obtain ⟨e, -, q, ok, -, rfl⟩ := hsingles.exists_of_mem n hn
        exact ⟨e, q, ok, rfl⟩
      perm_singles := hpermSingles
      forall_grouped := fun n hn => ⟨left, hgrouped.exists_eq_group n hn⟩
      length_grouped_le := hgrouped.length_le_one
      map_call_grouped := hcalls
      isEdit_fresh := fun _ hn => absurd hn List.not_mem_nil }
  rw [heq, heq']
  exact ⟨singles, singles', grouped, grouped', halike,
    { view_eq := hview.trans (hs.trans hview'.symm)
      pending_eq := hpending
      ofCategory_eq := ofCategory_others_append_of_perm hperm hd
        (hgrouped.sublist.trans hsingles.sublist) hpermRest }⟩

/-- **One new message** of two batches that are in step is the same, and they stay in step. -/
theorem InStep.announce (hch : ch.Orderly editable view) (window : Span) {c d : Consolidation σ}
    (h : InStep view c d) (category : Category) : ∃ ns,
      (c.announce ch window category).notices = c.notices ++ ns ∧
      (d.announce ch window category).notices = d.notices ++ ns ∧
      (∀ n ∈ ns, n.call.isEdit = false) ∧
      InStep view (c.announce ch window category) (d.announce ch window category) := by
  rw [Consolidation.announce, Consolidation.announce, ← ofCategory, ← ofCategory,
    h.ofCategory_eq category, h.pending_eq]
  cases ofCategory d.remaining category with
  | nil => exact ⟨[], (List.append_nil _).symm, (List.append_nil _).symm, by simp, h⟩
  | cons e es =>
    dsimp only
    split
    · -- the same receipt decides what is pending
      obtain ⟨hreceipt, hview⟩ :=
        hch.sendTracked (Alert.groupText (e :: es)) c.channel d.channel h.view_eq
      rw [hreceipt]
      refine ⟨[⟨.sendTracked (Alert.groupText (e :: es)) _, e :: es⟩], rfl, rfl, ?_,
        hview, rfl, h.ofCategory_eq⟩
      intro n hn
      rw [List.mem_singleton.mp hn]
      rfl
    · obtain ⟨hok, hview⟩ := hch.send (Alert.groupText (e :: es)) c.channel d.channel h.view_eq
      rw [hok]
      refine ⟨[⟨.send (Alert.groupText (e :: es)) _, e :: es⟩], rfl, rfl, ?_,
        hview, rfl, h.ofCategory_eq⟩
      intro n hn
      rw [List.mem_singleton.mp hn]
      rfl

/-- Batches that are in step get the same new messages, and stay in step. -/
theorem InStep.foldl_announce (hch : ch.Orderly editable view) (window : Span)
    {c d : Consolidation σ} (h : InStep view c d) (categories : List Category) : ∃ fresh,
      (categories.foldl (Consolidation.announce ch window) c).notices = c.notices ++ fresh ∧
      (categories.foldl (Consolidation.announce ch window) d).notices = d.notices ++ fresh ∧
      (∀ n ∈ fresh, n.call.isEdit = false) ∧
      InStep view (categories.foldl (Consolidation.announce ch window) c)
        (categories.foldl (Consolidation.announce ch window) d) := by
  induction categories generalizing c d with
  | nil => exact ⟨[], (List.append_nil _).symm, (List.append_nil _).symm, by simp, h⟩
  | cons category categories ih =>
    obtain ⟨ns, hc, hd, hns, hstep⟩ := h.announce hch window category
    obtain ⟨fresh, hc', hd', hfresh, hsteps⟩ := ih hstep
    refine ⟨ns ++ fresh, ?_, ?_, List.forall_mem_append.mpr ⟨hns, hfresh⟩, hsteps⟩
    · rw [List.foldl_cons, hc', hc, List.append_assoc]
    · rw [List.foldl_cons, hd', hd, List.append_assoc]

end TwoRuns

/-- **A batch and a rearrangement of it are told alike**: the new messages are the same and come in
the same order, the edits are the same, of which those about single targets may come in another
order, and the same is pending afterwards. -/
theorem deliver_of_perm {ch : Channel σ} {editable : MessageId → Bool} {view : σ → τ}
    (hch : ch.Orderly editable view) (window : Span) {s s' : σ} (hs : view s = view s')
    (p : Pending) {events events' : List Event} (hperm : events.Perm events')
    (hd : (events.map Event.target).Nodup) :
    (deliver ch window s p events).pending = (deliver ch window s' p events').pending ∧
    view (deliver ch window s p events).channel = view (deliver ch window s' p events').channel ∧
    ∃ singles singles' grouped grouped' fresh,
      Alike (deliver ch window s p events).notices (deliver ch window s' p events').notices
        singles singles' grouped grouped' fresh := by
  obtain ⟨singles, singles', grouped, grouped', hedits, hstep⟩ :=
    exists_alike_afterEdits hch window hs p hperm hd
  obtain ⟨fresh, hnotices, hnotices', hfresh, hsteps⟩ :=
    hstep.foldl_announce hch window Category.all
  rw [deliver_eq_foldl, deliver_eq_foldl]
  refine ⟨hsteps.pending_eq, hsteps.view_eq, singles, singles', grouped, grouped', fresh,
    { hedits with notices_eq := ?_, notices_eq' := ?_, isEdit_fresh := hfresh }⟩
  · rw [hnotices, hedits.notices_eq, List.append_nil]
  · rw [hnotices', hedits.notices_eq', List.append_nil]

/-- Four targets come back while two go down, in two orders. The edits about single targets change
places, and one of them fails. The edit about a group and the new message stay where they are. -/
theorem deliver_of_perm_two_orders :
    let down (name : String) (ms : Int) : Event :=
      ⟨.down, name, "10.0.0.1", 8080, .stateChange, .atMillis ms⟩
    let back (name : String) (ms : Int) : Event :=
      ⟨.recovered, name, "10.0.0.1", 8080, .stateChange, .atMillis ms⟩
    let ch := Channel.ofReceipts (fun id => id != 7) fun sent => .tracked (100 + sent)
    let p : Pending :=
      { singles := [("cache", .ofEvent 6 (down "cache" 0)), ("db", .ofEvent 7 (down "db" 0))]
        groups := [⟨8, .stateChange, .atMillis 0,
          eventsByTarget [down "api" 0, down "db" 0, down "web" 0]⟩] }
    let events :=
      [back "web" 3, back "db" 2, down "mail" 6, back "api" 5, back "cache" 1, down "ftp" 4]
    let events' :=
      [down "ftp" 4, back "cache" 1, back "api" 5, down "mail" 6, back "db" 2, back "web" 3]
    let told := deliver ch (.ofSeconds 30) 0 p events
    let told' := deliver ch (.ofSeconds 30) 0 p events'
    events.Perm events' ∧ (events.map Event.target).Nodup ∧
      (told.notices.map fun n => n.events.map Event.target) =
        [["db"], ["cache"], ["web", "db", "api"], ["ftp", "mail"]] ∧
      (told'.notices.map fun n => n.events.map Event.target) =
        [["cache"], ["db"], ["api", "db", "web"], ["ftp", "mail"]] ∧
      told.pending = told'.pending ∧ told.channel = told'.channel ∧
      ∃ singles singles' grouped grouped' fresh,
        Alike told.notices told'.notices singles singles' grouped grouped' fresh := by
  intro down back ch p events events' told told'
  have hperm : events.Perm events' := by decide
  have hd : (events.map Event.target).Nodup := by decide
  exact ⟨hperm, hd, by decide +kernel, by decide +kernel,
    deliver_of_perm (Channel.orderly_ofReceipts _ _) (.ofSeconds 30) rfl p hperm hd⟩

end Uptime
