import Uptime.Channel.Script
import Uptime.Proofs.Alert.Coverage
import Uptime.Proofs.Alert.Window
import Uptime.Proofs.Watch

/-!
# Recoveries after a first check

An outage that is found by the first check of a target leaves nothing pending. But nothing
pending goes away either, so its recovery may meet the record of an older outage, from the
time when the target was watched under another address, say. It is told by an edit exactly if
it does; all other recoveries of this kind are told by a new message.

## Main definitions

* `LatestDown`: the latest outage of a target.
* `AfterFirstCheck`: what becomes of a recovery after a first check.

## Main results

* `Watch.afterFirstCheck`: every recovery after a first check.
-/

namespace Uptime

variable {σ : Type}

/-- The event `d` is the latest outage of its target among some events, and `earlier` are those
before it. -/
def LatestDown (events : List Event) (d : Event) (earlier : List Event) : Prop :=
  d.kind = .down ∧ ∃ later, events = earlier ++ d :: later ∧
    ∀ e ∈ later, e.kind = .down → e.target ≠ d.target

/-- What becomes of a recovery `e` in a batch, if the latest outage of its target was found by
the first check and `earlier` are the events before it. -/
structure AfterFirstCheck (window : Span) (earlier : List Event) (p : Pending)
    (events : List Event) (e : Event) (notices singles : List Notice) : Prop where
  /-- It is treated like any other recovery. -/
  mem_recoveries : e ∈ recoveries events
  passes : Passes window p events notices singles
  /-- The records by which it may be told are about outages before that one. -/
  exists_outage : ∀ r ∈ p.naming e.target, ∃ o ∈ earlier, o.category = .outage ∧
    o.target = e.target ∧ r.downAtOf e.target = o.occurred
  /-- If there were no outages but first checks, no edit is about it and a new message is. -/
  of_forall_ne : (∀ o ∈ earlier, o.category = .outage → o.target ≠ e.target) →
    ¬ Edited notices e ∧ Announced notices e

/-- **What becomes of a recovery after a first check**, in any run of a monitor with a desk and
however the channel answers. -/
theorem Watch.afterFirstCheck {ch : Channel σ} {window : Span} {w : Watch σ}
    (hw : w.Reachable ch window) {listingSucceeds : Bool} {moves : List Move}
    (hmoves : Cycle.Admits w.monitor listingSucceeds moves) {e d : Event} {earlier : List Event}
    (he : e ∈ (Cycle.after w.monitor listingSucceeds moves).events) (hkind : e.kind = .recovered)
    (hd : LatestDown w.desk.events d earlier) (htarget : d.target = e.target)
    (hreason : d.reason = .initialCheck) :
    ∃ singles, AfterFirstCheck window earlier w.desk.pending
      (Cycle.after w.monitor listingSucceeds moves).events e
      (w.desk.tell ch window (Cycle.after w.monitor listingSucceeds moves).events).notices
      singles := by
  obtain ⟨s, batches, hbatches, hdesk⟩ := hw.desk_eq
  have hwell : w.desk.pending.WellFormed := by
    rw [hdesk]
    exact Desk.wellFormed_run ch window s batches
  have hstems : ∀ r ∈ w.desk.pending.records, r.StemsFrom w.desk.events := by
    rw [hdesk]
    exact Desk.stemsFrom_run ch window s batches
  have hcategory : e.category = .recovery := by
    rw [Event.category, hkind, Cycle.reason_of_recovered he hkind]
    rfl
  have hrecovery : e ∈ recoveries (Cycle.after w.monitor listingSucceeds moves).events :=
    mem_recoveries.mpr ⟨he, hcategory⟩
  obtain ⟨singles, hpasses⟩ := deliver_passes ch window w.desk.channel hwell
    (Cycle.nodup_targets hw.sorted hmoves)
  have hnaming : ∀ r ∈ w.desk.pending.naming e.target, ∃ o ∈ earlier, o.category = .outage ∧
      o.target = e.target ∧ r.downAtOf e.target = o.occurred := by
    intro r hr
    obtain ⟨hr, hname⟩ := List.mem_filter.mp hr
    obtain ⟨o, ho, houtage, hotarget, hoccurred⟩ :=
      (hstems r hr).exists_outage (by simpa using hname)
    refine ⟨o, ?_, houtage, hotarget, hoccurred⟩
    -- the outage is neither the latest one, which was a first check, nor any later one
    obtain ⟨-, later, hevents, hlater⟩ := hd
    rw [hevents] at ho
    rcases List.mem_append.mp ho with ho | ho
    · exact ho
    · rcases List.mem_cons.mp ho with rfl | ho
      · have hchange : o.reason = .stateChange := congrArg Category.reason houtage
        rw [hreason] at hchange
        cases hchange
      · exact absurd (hotarget.trans htarget.symm)
          (hlater o ho (congrArg Category.kind houtage))
  refine ⟨singles, hrecovery, hpasses, hnaming, fun hfirst => ?_⟩
  have hunnamed : ∀ r ∈ w.desk.pending.records, e.target ∉ r.names := by
    intro r hr hname
    obtain ⟨o, ho, houtage, hotarget, -⟩ :=
      hnaming r (List.mem_filter.mpr ⟨hr, by simpa using hname⟩)
    exact hfirst o ho houtage hotarget
  have hedited : ¬ Edited (w.desk.tell ch window
      (Cycle.after w.monitor listingSucceeds moves).events).notices e := by
    intro hedited
    rcases (hpasses.edited_iff e hrecovery).mp hedited with hrecord | ⟨g, hg, hname, -⟩
    · obtain ⟨q, hq⟩ := Option.isSome_iff_exists.mp hrecord
      have hfind := (Option.filter_eq_some_iff.mp hq).1
      exact hunnamed _ (mem_records_single.mpr (NameMap.mem_of_find? hfind)) List.mem_cons_self
    · exact hunnamed _ (mem_records_group.mpr hg) hname
  exact ⟨hedited, (hpasses.announced_iff e hrecovery).mpr fun hmerged => hedited hmerged.edited⟩

/-- A target that is down is moved to another address, where the first check finds it down; then
it comes back. Its recovery is told by an edit of the message about the outage at the old
address. -/
theorem Watch.afterFirstCheck_moved :
    let probed (address : String) (outcome : ProbeOutcome) (ms : Int) : List Move :=
      [.happening (.probed ⟨"web", address, 80⟩ outcome (.atMillis ms) true)]
    let store (address : String) : Store := ({} : Store).upsert ⟨"web", address, 80, true⟩
    let window := Span.ofSeconds 30
    let fresh : Watch Script := ⟨{ store := store "a" }, { channel := {} }⟩
    let down := (fresh.cycle Script.channel window true (probed "a" .up 0)).cycle Script.channel
      window true (probed "a" .down 1000)
    let w := (down.between (.stored (store "b"))).cycle Script.channel window true
      (probed "b" .down 2000)
    let events := (Cycle.after w.monitor true (probed "b" .up 3000)).events
    let e : Event := ⟨.recovered, "web", "b", 80, .stateChange, .atMillis 3000⟩
    let d : Event := ⟨.down, "web", "b", 80, .initialCheck, .atMillis 2000⟩
    let o : Event := ⟨.down, "web", "a", 80, .stateChange, .atMillis 1000⟩
    w.Reachable Script.channel window ∧
      Cycle.Admits w.monitor true (probed "b" .up 3000) ∧ e ∈ events ∧ e.kind = .recovered ∧
      LatestDown w.desk.events d [o] ∧ d.target = e.target ∧ d.reason = .initialCheck ∧
      (w.desk.tell Script.channel window events).notices.map
        (fun n => (n.call.isEdit, n.events)) = [(true, [e])] ∧
      ∃ singles, AfterFirstCheck window [o] w.desk.pending events e
        (w.desk.tell Script.channel window events).notices singles := by
  intro probed store window fresh down w events e d o
  have hadmits : ∀ {m : Monitor} {address : String} {outcome : ProbeOutcome} {ms : Int},
      (Cycle.start m true).monitor.registry.identities = [⟨"web", address, 80⟩] →
        Cycle.Admits m true (probed address outcome ms) := by
    intro m address outcome ms h
    rw [Cycle.Admits, h]
    exact List.Subperm.refl _
  have hw : w.Reachable Script.channel window :=
    .cycle (.between (.cycle (.cycle (.fresh _ _) (hadmits (by decide +kernel)))
      (hadmits (by decide +kernel))) rfl) (hadmits (by decide +kernel))
  have hmoves : Cycle.Admits w.monitor true (probed "b" .up 3000) := hadmits (by decide +kernel)
  have he : e ∈ events := by decide +kernel
  have hd : LatestDown w.desk.events d [o] := ⟨rfl, [], by decide +kernel, by simp⟩
  exact ⟨hw, hmoves, he, rfl, hd, rfl, rfl, by decide +kernel,
    Watch.afterFirstCheck hw hmoves he rfl hd rfl rfl⟩

end Uptime
