import Uptime.Proofs.Alert.Desk
import Uptime.Proofs.Registry
import Uptime.Service

/-!
# A monitor and its desk

A monitor runs one cycle after the other and hands the events of each to a desk. Before, between
and during the cycles the catalog may be changed, through the monitor or behind its back, and
the store may fail; probes end in any order.

## Main definitions

* `Move`, `Cycle.move`: what may happen, and the progress that it brings.
* `Cycle.Admits`: during a cycle every target that was watched at its start is probed once at
  most.
* `Watch`, `Watch.cycle`: a monitor with its desk, and one more cycle.
* `Watch.Reachable`: what can come about from an empty registry.

## Main results

* `Cycle.run_eq_move`: a cycle whose probes take no time is a sequence of moves.
* `Running.cycle_eq_watch`: so is a cycle of the service, together with what it tells.
* `Cycle.nodup_targets`: no two events of a cycle are about one target.
* `Watch.Reachable.desk_eq`: the desk has told a sequence of such batches.
-/

namespace Uptime

variable {σ ω : Type}

/-- What may happen to a monitor. -/
inductive Move
  /-- Something that goes through the monitor. -/
  | happening (h : Happening)
  /-- The store is changed behind its back. -/
  | stored (store : Store)

/-- The target whose probe ends. -/
def Move.probed : Move → Option Identity
  | happening (.probed id ..) => some id
  | _ => none

/-! ### The order of the registry -/

namespace Monitor

theorem sorted_adopt {m : Monitor} (h : m.registry.Sorted) (listing : Option (List Definition)) :
    (m.adopt listing).registry.Sorted := by
  cases listing with
  | none => exact h
  | some definitions => exact m.registry.sorted_replace definitions

theorem sorted_sync {m : Monitor} (h : m.registry.Sorted) (listingSucceeds : Bool) :
    (m.sync listingSucceeds).registry.Sorted := sorted_adopt h _

/-- The monitor after a change of the catalog is the one before it or has been synchronised. -/
theorem upsert_eq (m : Monitor) (name address : String) (port : Int) (writing : Writing)
    (listingSucceeds : Bool) :
    (m.upsert name address port writing listingSucceeds).2 = m ∨
      ∃ store, (m.upsert name address port writing listingSucceeds).2 =
        { m with store }.sync listingSucceeds := by
  rw [upsert]
  split
  · exact .inl rfl
  · split
    · exact .inl rfl
    · exact .inr ⟨_, rfl⟩

theorem delete_eq (m : Monitor) (name : String) (writing : Writing) (listingSucceeds : Bool) :
    (m.delete name writing listingSucceeds).2 = m ∨
      ∃ store, (m.delete name writing listingSucceeds).2 =
        { m with store }.sync listingSucceeds := by
  rw [delete]
  split
  · exact .inl rfl
  · split
    · exact .inl rfl
    · exact .inr ⟨_, rfl⟩

theorem sorted_upsert {m : Monitor} (h : m.registry.Sorted) (name address : String) (port : Int)
    (writing : Writing) (listingSucceeds : Bool) :
    (m.upsert name address port writing listingSucceeds).2.registry.Sorted := by
  rcases m.upsert_eq name address port writing listingSucceeds with heq | ⟨store, heq⟩
  · rwa [heq]
  · rw [heq]
    exact sorted_sync (m := { m with store }) h listingSucceeds

theorem sorted_delete {m : Monitor} (h : m.registry.Sorted) (name : String) (writing : Writing)
    (listingSucceeds : Bool) : (m.delete name writing listingSucceeds).2.registry.Sorted := by
  rcases m.delete_eq name writing listingSucceeds with heq | ⟨store, heq⟩
  · rwa [heq]
  · rw [heq]
    exact sorted_sync (m := { m with store }) h listingSucceeds

end Monitor

/-! ### Moves -/

namespace Cycle

/-- The progress that a move brings. -/
def move (c : Cycle) : Move → Cycle
  | .happening h => c.step h
  | .stored store => { c with monitor.store := store }

/-- The cycle of a monitor with some moves. -/
def after (m : Monitor) (listingSucceeds : Bool) (moves : List Move) : Cycle :=
  moves.foldl move (start m listingSucceeds)

/-- Some moves can happen during a cycle: the targets whose probes end are watched when it
starts, and each is probed once. -/
def Admits (m : Monitor) (listingSucceeds : Bool) (moves : List Move) : Prop :=
  (moves.filterMap Move.probed).Subperm (start m listingSucceeds).monitor.registry.identities

/-! ### What a move brings -/

-- Stated apart, so that no proof below has to look into the changes of the catalog.
theorem move_upserted (c : Cycle) (name address : String) (port : Int) (writing : Writing)
    (listingSucceeds : Bool) :
    c.move (.happening (.upserted name address port writing listingSucceeds)) =
      { c with monitor := (c.monitor.upsert name address port writing listingSucceeds).2 } := rfl

theorem move_deleted (c : Cycle) (name : String) (writing : Writing) (listingSucceeds : Bool) :
    c.move (.happening (.deleted name writing listingSucceeds)) =
      { c with monitor := (c.monitor.delete name writing listingSucceeds).2 } := rfl

/-- What taking over the result of a probe does: the identities stay, and an event is one of the
transition. -/
theorem settle_eq (c : Cycle) (id : Identity) (up : Bool) (now : Instant)
    (recordingSucceeds : Bool) : ∃ news : Option Event,
    (c.settle id up now recordingSucceeds).events = c.events ++ news.toList ∧
    (c.settle id up now recordingSucceeds).monitor.registry.identities =
      c.monitor.registry.identities ∧
    ∀ e ∈ news, e.target = id.name ∧ (e.kind = .recovered → e.reason = .stateChange) := by
  have hidentities := c.monitor.registry.identities_apply id up now
  cases happly : c.monitor.registry.apply id up now with
  | mk registry transition? =>
    rw [happly] at hidentities
    cases transition? with
    | none =>
      refine ⟨none, ?_, ?_, fun e he => by cases he⟩
      · simp [settle, Monitor.settle, happly]
      · simpa [settle, Monitor.settle, happly] using hidentities
    | some transition =>
      refine ⟨transition.event, ?_, ?_, fun e he => ?_⟩
      · simp [settle, Monitor.settle, happly]
      · simpa [settle, Monitor.settle, happly] using hidentities
      · exact Registry.of_apply_eq_event (by rw [happly]) he

/-- **One move** keeps the registry in order and raises events about the target whose probe
ends only. -/
theorem move_eq (c : Cycle) (m : Move) : ∃ news : List Event,
    (c.move m).events = c.events ++ news ∧
    (c.monitor.registry.Sorted → (c.move m).monitor.registry.Sorted) ∧
    (news.map Event.target).Sublist (m.probed.toList.map Identity.name) ∧
    ∀ e ∈ news, e.kind = .recovered → e.reason = .stateChange := by
  have hsettle : ∀ id up now recordingSucceeds, ∃ news : List Event,
      (c.settle id up now recordingSucceeds).events = c.events ++ news ∧
      (c.monitor.registry.Sorted →
        (c.settle id up now recordingSucceeds).monitor.registry.Sorted) ∧
      (news.map Event.target).Sublist [id.name] ∧
      ∀ e ∈ news, e.kind = .recovered → e.reason = .stateChange := by
    intro id up now recordingSucceeds
    obtain ⟨news, hevents, hidentities, hnews⟩ := c.settle_eq id up now recordingSucceeds
    refine ⟨news.toList, hevents, fun h => ?_, ?_, fun e he => (hnews e (by simpa using he)).2⟩
    · rw [Registry.Sorted, hidentities]
      exact h
    · cases news with
      | none => exact List.nil_sublist _
      | some e => simp [(hnews e rfl).1]
  have hsilent : ∀ m' : Monitor, (c.monitor.registry.Sorted → m'.registry.Sorted) →
      ∃ news : List Event,
      { c with monitor := m' }.events = c.events ++ news ∧
      (c.monitor.registry.Sorted → { c with monitor := m' }.monitor.registry.Sorted) ∧
      (news.map Event.target).Sublist (m.probed.toList.map Identity.name) ∧
      ∀ e ∈ news, e.kind = .recovered → e.reason = .stateChange := by
    intro m' hsorted
    exact ⟨[], by rw [List.append_nil], hsorted, List.nil_sublist _, by simp⟩
  cases m with
  | stored store => exact hsilent { c.monitor with store } fun h => h
  | happening h =>
    cases h with
    | probed id outcome now ok =>
      cases outcome with
      | up => exact hsettle id true now ok
      | down => exact hsettle id false now ok
      | died => exact hsilent c.monitor fun h => h
    | upserted name address port writing ok =>
      rw [move_upserted]
      exact hsilent _ fun h => Monitor.sorted_upsert h name address port writing ok
    | deleted name writing ok =>
      rw [move_deleted]
      exact hsilent _ fun h => Monitor.sorted_delete h name writing ok
    | synced ok => exact hsilent (c.monitor.sync ok) fun h => Monitor.sorted_sync h ok

/-- **Any moves** do the same. -/
theorem foldl_move_eq (moves : List Move) (c : Cycle) : ∃ news : List Event,
    (moves.foldl move c).events = c.events ++ news ∧
    (c.monitor.registry.Sorted → (moves.foldl move c).monitor.registry.Sorted) ∧
    (news.map Event.target).Sublist ((moves.filterMap Move.probed).map Identity.name) ∧
    ∀ e ∈ news, e.kind = .recovered → e.reason = .stateChange := by
  induction moves generalizing c with
  | nil => exact ⟨[], (List.append_nil _).symm, fun h => h, List.nil_sublist _, by simp⟩
  | cons m moves ih =>
    obtain ⟨first, hfirst, hsorted, htarget, hreason⟩ := c.move_eq m
    obtain ⟨rest, hrest, hsorted', htarget', hreason'⟩ := ih (c.move m)
    refine ⟨first ++ rest, ?_, fun h => hsorted' (hsorted h), ?_, fun e he => ?_⟩
    · rw [List.foldl_cons, hrest, hfirst, List.append_assoc]
    · have hprobed : (m :: moves).filterMap Move.probed =
          m.probed.toList ++ moves.filterMap Move.probed := by
        rw [List.filterMap_cons]
        cases m.probed <;> rfl
      rw [hprobed, List.map_append, List.map_append]
      exact htarget.append htarget'
    · rcases List.mem_append.mp he with he | he
      · exact hreason e he
      · exact hreason' e he

section Admitted

variable {m : Monitor} {listingSucceeds : Bool} {moves : List Move}

theorem sorted_start (h : m.registry.Sorted) (listingSucceeds : Bool) :
    (start m listingSucceeds).monitor.registry.Sorted :=
  Monitor.sorted_sync h _

theorem sorted_after (h : m.registry.Sorted) (listingSucceeds : Bool) (moves : List Move) :
    (after m listingSucceeds moves).monitor.registry.Sorted := by
  obtain ⟨-, -, hsorted, -, -⟩ := foldl_move_eq moves (start m listingSucceeds)
  exact hsorted (sorted_start h listingSucceeds)

/-- **No two events of a cycle are about one target.** -/
theorem nodup_targets (h : m.registry.Sorted) (hmoves : Admits m listingSucceeds moves) :
    ((after m listingSucceeds moves).events.map Event.target).Nodup := by
  obtain ⟨news, hnews, -, htarget, -⟩ := foldl_move_eq moves (start m listingSucceeds)
  obtain ⟨probed, hperm, hprobed⟩ := hmoves
  have hnodup : (probed.map Identity.name).Nodup :=
    (sorted_start h listingSucceeds).nodup_names.sublist (hprobed.map _)
  rw [after, hnews]
  exact ((hperm.map _).nodup_iff.mp hnodup).sublist htarget

/-- A target that comes back has changed. -/
theorem reason_of_recovered {e : Event} (he : e ∈ (after m listingSucceeds moves).events)
    (hkind : e.kind = .recovered) : e.reason = .stateChange := by
  obtain ⟨news, hnews, -, -, hreason⟩ := foldl_move_eq moves (start m listingSucceeds)
  rw [after, hnews] at he
  exact hreason e he hkind

end Admitted

end Cycle

/-! ### Probes that take no time -/

/-- The cycle with another list of launched probes. -/
def Cycle.relaunched (c : Cycle) (launched : List Identity) : Cycle := { c with launched }

/-- Which probes have been launched does not matter to a move. -/
theorem Cycle.move_relaunched (c : Cycle) (launched : List Identity) (m : Move) :
    (c.relaunched launched).move m = (c.move m).relaunched launched := by
  cases m with
  | stored store => rfl
  | happening h =>
    cases h with
    | probed id outcome now ok => cases outcome <;> rfl
    | upserted name address port writing ok => rfl
    | deleted name writing ok => rfl
    | synced ok => rfl

theorem Cycle.foldl_move_relaunched (moves : List Move) (c : Cycle) (launched : List Identity) :
    moves.foldl move (c.relaunched launched) = (moves.foldl move c).relaunched launched := by
  induction moves generalizing c with
  | nil => rfl
  | cons m moves ih => rw [List.foldl_cons, List.foldl_cons, move_relaunched, ih]

/-- Nothing that happens during a probe is the end of a probe. -/
def Prober.Quiet (p : Prober ω) : Prop :=
  ∀ id world, ∀ h ∈ (p.probe id world).1.meanwhile, (Move.happening h).probed = none

theorem Cycle.probeFrom_eq_move {p : Prober ω} (hp : p.Quiet) (workers : Nat) :
    ∀ (ids : List Identity) (i : Nat) (cancelledAfter : Option Nat) (c : Cycle) (world : ω),
      ∃ (moves : List Move) (launched : List Identity), (moves.filterMap Move.probed).Sublist ids ∧
        (probeFrom p workers i cancelledAfter c world ids).1 =
          (moves.foldl move c).relaunched launched := by
  intro ids
  induction ids with
  | nil => intro i cancelledAfter c world; exact ⟨[], c.launched, List.nil_sublist _, rfl⟩
  | cons id ids ih =>
    intro i cancelledAfter c world
    rw [probeFrom]
    split
    · exact ⟨[], c.launched, List.nil_sublist _, rfl⟩
    · -- what happens during the first probe, and then its end
      let report := (p.probe id world).1
      let moves₀ : List Move := report.meanwhile.map .happening ++
        [.happening (.probed id report.outcome report.now report.recordingSucceeds)]
      have hprobed : moves₀.filterMap Move.probed = [id] := by
        have hquiet : (report.meanwhile.map Move.happening).filterMap Move.probed = [] := by
          simpa using hp id world
        rw [List.filterMap_append, hquiet]
        rfl
      obtain ⟨moves, launched, hmoves, heq⟩ := ih (i + 1)
        (cancelledAfter.or (if report.cancels then some (i + 1) else none))
        (moves₀.foldl move (c.relaunched (c.launched ++ [id]))) (p.probe id world).2
      have hmoves₀ : (report.meanwhile.foldl step (c.relaunched (c.launched ++ [id]))).step
          (.probed id report.outcome report.now report.recordingSucceeds) =
          moves₀.foldl move (c.relaunched (c.launched ++ [id])) := by
        rw [List.foldl_append, List.foldl_map]
        rfl
      refine ⟨moves₀ ++ moves, launched, ?_, ?_⟩
      · rw [List.filterMap_append, hprobed]
        exact hmoves.cons_cons id
      · rw [← hmoves₀] at heq
        refine Eq.trans heq ?_
        have hfold : (moves₀ ++ moves).foldl move c = moves.foldl move (moves₀.foldl move c) :=
          List.foldl_append
        rw [hmoves₀, hfold, foldl_move_relaunched moves₀, foldl_move_relaunched moves]
        rfl

/-- **A cycle whose probes take no time is a sequence of moves** that a cycle admits. -/
theorem Cycle.run_eq_move {p : Prober ω} (hp : p.Quiet) (workers : Nat)
    (cancelled listingSucceeds : Bool) (m : Monitor) (world : ω) :
    ∃ (moves : List Move) (launched : List Identity), Admits m listingSucceeds moves ∧
      (run p workers cancelled listingSucceeds m world).1 =
        (after m listingSucceeds moves).relaunched launched := by
  obtain ⟨moves, launched, hmoves, heq⟩ := probeFrom_eq_move hp
    (effectiveWorkers workers (start m listingSucceeds).monitor.registry.identities.length)
    (start m listingSucceeds).monitor.registry.identities 0
    (if cancelled then some 0 else none) (start m listingSucceeds) world
  exact ⟨moves, launched, hmoves.subperm, heq⟩

/-! ### Monitors with a desk -/

/-- A monitor with the desk that tells its events. -/
structure Watch (σ : Type) where
  /-- The monitor. -/
  monitor : Monitor
  /-- The desk. -/
  desk : Desk σ

namespace Watch

/-- Something happens between two cycles. -/
def between (w : Watch σ) (m : Move) : Watch σ :=
  { w with monitor := (Cycle.move { monitor := w.monitor } m).monitor }

/-- One more cycle, whose events are told. -/
def cycle (ch : Channel σ) (window : Span) (w : Watch σ) (listingSucceeds : Bool)
    (moves : List Move) : Watch σ :=
  let c := Cycle.after w.monitor listingSucceeds moves
  { monitor := c.monitor, desk := w.desk.take ch window c.events }

/-- What can come about when a monitor with an empty registry starts. Probes end during cycles
only. -/
inductive Reachable (ch : Channel σ) (window : Span) : Watch σ → Prop
  /-- Nothing has happened yet. -/
  | fresh (store : Store) (s : σ) : Reachable ch window ⟨{ store }, { channel := s }⟩
  /-- Something happens between two cycles. -/
  | between {w} (h : Reachable ch window w) {m : Move} (hmove : m.probed = none) :
      Reachable ch window (w.between m)
  /-- There is one more cycle. -/
  | cycle {w} (h : Reachable ch window w) {listingSucceeds : Bool} {moves : List Move}
      (hmoves : Cycle.Admits w.monitor listingSucceeds moves) :
      Reachable ch window (w.cycle ch window listingSucceeds moves)

variable {ch : Channel σ} {window : Span} {w : Watch σ}

/-- A registry that can come about is in order. -/
theorem Reachable.sorted (h : w.Reachable ch window) : w.monitor.registry.Sorted := by
  induction h with
  | fresh store s => exact List.Pairwise.nil
  | @between w _ m _ ih =>
    obtain ⟨-, -, hsorted, -, -⟩ := Cycle.move_eq { monitor := w.monitor } m
    exact hsorted ih
  | cycle _ _ ih => exact Cycle.sorted_after ih _ _

/-- **The desk has told one batch for each cycle, none with two events about one target.** -/
theorem Reachable.desk_eq (h : w.Reachable ch window) :
    ∃ (s : σ) (batches : List (List Event)),
      (∀ batch ∈ batches, (batch.map Event.target).Nodup) ∧
      w.desk = Desk.run ch window s batches := by
  induction h with
  | fresh store s => exact ⟨s, [], by simp, rfl⟩
  | between _ _ ih => exact ih
  | @cycle w h listingSucceeds moves hmoves ih =>
    obtain ⟨s, batches, hbatches, hdesk⟩ := ih
    refine ⟨s, batches ++ [(Cycle.after w.monitor listingSucceeds moves).events], ?_, ?_⟩
    · intro batch hbatch
      rcases List.mem_append.mp hbatch with hold | hnew
      · exact hbatches batch hold
      · rw [List.mem_singleton.mp hnew]
        exact Cycle.nodup_targets h.sorted hmoves
    · rw [Desk.run_append_singleton, ← hdesk]
      rfl

end Watch

/-- **The cycle of a running service** with a bot is the cycle of a monitor with a desk. -/
theorem Running.cycle_eq_watch {service : Service} {bot : Bot} (hbot : service.bot = some bot)
    (net : Network σ) {p : Prober ω} (hp : p.Quiet) (r : Running σ) (world : ω) :
    ∃ moves, Cycle.Admits r.monitor true moves ∧
      ∀ d : Desk σ, d.channel = r.network → d.pending = r.pending →
        let w := (⟨r.monitor, d⟩ : Watch σ).cycle (bot.channel net) service.window true moves
        (r.cycle service net p world).1 = ⟨w.monitor, w.desk.pending, w.desk.channel⟩ := by
  obtain ⟨moves, launched, hmoves, heq⟩ :=
    Cycle.run_eq_move hp service.settings.check.workers false true r.monitor world
  refine ⟨moves, hmoves, fun d hchannel hpending => ?_⟩
  simp only [cycle, alert, hbot, heq, Watch.cycle, Desk.take, Desk.tell, hchannel, hpending]
  rfl

end Uptime
