import Mathlib.Data.Finset.Card
import Mathlib.Data.List.Find
import Uptime.Channel.Script
import Uptime.Proofs.Alert.Conversation
import Uptime.Proofs.Alert.Record

/-!
# Which recoveries are told by edits

The decision which recoveries of a batch are told by edits, when no two events of the batch are
about one target. Each recovery is tried by the message about its own target, if that is
pending and recent enough. Those that are left are tried together, by the oldest message about
a group that consists of exactly their targets and is recent enough for all of them.

The code compares the numbers of members and recoveries and looks for each recovery among the
members. That this amounts to equality of sets rests on maps being maps and on the recoveries
being of different targets.

## Main definitions

* `PendingGroup.RecoveredBy`: a group comes back as a whole and in time.
* `Pending.recovered`: the first such group.
* `Resolution`: the decision of a batch.

## Main results

* `PendingGroup.answers_iff`: what the code compares.
* `deliver_resolution`: every batch is decided so.
-/

namespace Uptime

variable {σ : Type}

namespace PendingGroup

/-- The recoveries are those of the members of a group, all of them and no others, and each
lies within the window after the time of the group. -/
def RecoveredBy (g : PendingGroup) (es : List Event) (window : Span) : Prop :=
  g.targets.names.toFinset = (es.map Event.target).toFinset ∧
    ∀ e ∈ es, e.occurred - g.downAt ≤ window

instance (g : PendingGroup) (es : List Event) (window : Span) :
    Decidable (g.RecoveredBy es window) :=
  inferInstanceAs (Decidable (_ ∧ _))

/-- A list without repetition has the same members as an equally long one that contains it. -/
private theorem toFinset_eq_of_subset {xs ys : List String} (hys : ys.Nodup)
    (hlength : xs.length = ys.length) (hsubset : ys ⊆ xs) : xs.toFinset = ys.toFinset := by
  have hperm : ys.Perm xs := (hys.subperm hsubset).perm_of_length_le hlength.le
  exact (List.toFinset_eq_of_perm _ _ hperm).symm

/-- **Counting members and finding each recovery among them is equality of sets.** -/
theorem answers_iff {g : PendingGroup} {es : List Event} {window : Span}
    (hg : g.targets.names.Nodup) (hes : (es.map Event.target).Nodup) :
    g.Answers es window ↔ g.RecoveredBy es window := by
  have hlength : g.targets.names.length = g.targets.length := List.length_map _
  constructor
  · -- as many recoveries as members, all of them about members
    rintro ⟨hcount, hmembers⟩
    refine ⟨toFinset_eq_of_subset hes ?_ ?_, fun e he => (hmembers e he).2⟩
    · rw [hlength, hcount, List.length_map]
    · intro name hname
      obtain ⟨e, he, rfl⟩ := List.mem_map.mp hname
      exact NameMap.contains_iff.mp (hmembers e he).1
  · rintro ⟨hnames, hwindow⟩
    refine ⟨?_, fun e he => ⟨NameMap.contains_iff.mpr ?_, hwindow e he⟩⟩
    · rw [← hlength, ← List.toFinset_card_of_nodup hg, hnames, List.toFinset_card_of_nodup hes,
        List.length_map]
    · rw [← List.mem_toFinset, hnames, List.mem_toFinset]
      exact List.mem_map_of_mem he

end PendingGroup

/-- The first group, in the order in which they are kept, that some recoveries bring back;
none if there are no recoveries. -/
def Pending.recovered (p : Pending) (window : Span) (es : List Event) : Option PendingGroup :=
  if es = [] then none else p.groups.find? fun g => g.RecoveredBy es window

/-- In a well-formed state, recoveries of different targets answer the groups that they bring
back. -/
theorem Pending.answering_eq_recovered {p : Pending} (hp : p.WellFormed) {window : Span}
    {es : List Event} (hes : (es.map Event.target).Nodup) :
    p.answering window es = p.recovered window es := by
  rw [answering, recovered]
  congr 1
  refine List.find?_congr fun g hg => ?_
  rw [decide_eq_decide]
  exact PendingGroup.answers_iff (hp.groups g hg) hes

theorem nodup_recoveries {events : List Event} (hd : (events.map Event.target).Nodup) :
    ((recoveries events).map Event.target).Nodup :=
  hd.sublist (List.filter_sublist.map _)

/-- The decision of a batch: `singles` are the edits about single targets, `grouped` those about
groups, `fresh` the new messages, and `rest` the recoveries that no edit has told. -/
structure Resolution (ch : Channel σ) (window : Span) (s : σ) (p : Pending) (events : List Event)
    (told : Consolidation σ) (singles grouped fresh : List Notice) (rest : List Event) :
    Prop where
  /-- Edits come before new messages, and those about single targets before those about
  groups. -/
  notices_eq : told.notices = singles ++ grouped ++ fresh
  /-- The recorded answers are those of the channel. -/
  conversation : ch.Conversation s (told.notices.map Notice.call) told.channel
  /-- There is one edit about a single target for each recovery that the record of its target
  can tell, in the order of the batch. -/
  forall_singles : List.Forall₂ (fun told n => ∃ ok, n = Notice.single told.1 told.2 ok)
    ((recoveries events).filterMap fun e => (recordIn p.singles window e).map (e, ·)) singles
  /-- There is an edit about a group if the recoveries about which no edit has succeeded bring
  one back, and then it is one about the first such group. It tells all of them if it succeeds
  and none otherwise. -/
  groupEdit : GroupEdit (p.recovered window (untold (recoveries events) singles))
    (untold (recoveries events) singles) grouped rest
  /-- New messages are no edits. -/
  isEdit_fresh : ∀ n ∈ fresh, n.call.isEdit = false
  /-- New messages tell the recoveries that are still left and the events that are none. -/
  perm_fresh : (fresh.flatMap Notice.events).Perm (others events ++ rest)

/-- **Which recoveries are told by edits.** -/
theorem deliver_resolution (ch : Channel σ) (window : Span) (s : σ) {p : Pending}
    {events : List Event} (hp : p.WellFormed) (hd : (events.map Event.target).Nodup) :
    ∃ singles grouped fresh rest,
      Resolution ch window s p events (deliver ch window s p events) singles grouped fresh rest := by
  obtain ⟨singles, left, grouped, rest, receipt, nss, t, hsingles, hgrouped, hnss, heq⟩ :=
    deliver_eq ch window s p events
  have hrecoveries := nodup_recoveries hd
  have hleft : (left.map Event.target).Nodup := hrecoveries.sublist (hsingles.sublist.map _)
  refine ⟨singles, grouped, nss.flatten, rest, ⟨by rw [heq], deliver_conversation ..,
    hsingles.forall₂ hrecoveries, ?_, isEdit_of_announcements hnss, ?_⟩⟩
  · rw [← hsingles.left_eq hrecoveries, ← Pending.answering_eq_recovered hp hleft]
    exact hgrouped
  · rw [flatMap_events_of_announcements hnss]
    exact perm_flatMap_ofCategory _

/-- A target with a message of its own comes back together with a group of which it is a
member, and the first edit fails. -/
theorem deliver_resolution_failed_single :
    let down (name : String) : Event := ⟨.down, name, "host", 80, .stateChange, ⟨0⟩⟩
    let back (name : String) : Event := ⟨.recovered, name, "host", 80, .stateChange, ⟨5⟩⟩
    let p : Pending :=
      { singles := [("web", .ofEvent 7 (down "web"))]
        groups := [⟨8, .stateChange, ⟨0⟩, eventsByTarget [down "db", down "web"]⟩] }
    p.WellFormed ∧ ([back "web", back "db"].map Event.target).Nodup ∧
      ∃ singles grouped fresh rest,
        Resolution Script.channel (.ofSeconds 30) { edits := [false] } p [back "web", back "db"]
          (deliver Script.channel (.ofSeconds 30) { edits := [false] } p [back "web", back "db"])
          singles grouped fresh rest := by
  intro down back p
  have hp : p.WellFormed := ⟨by decide, by decide⟩
  have hd : ([back "web", back "db"].map Event.target).Nodup := by decide
  exact ⟨hp, hd, deliver_resolution _ _ _ hp hd⟩

end Uptime
