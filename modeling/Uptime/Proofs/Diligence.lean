import Mathlib.Order.Bounds.Basic
import Uptime.Proofs.Episode
import Uptime.Proofs.Launches.Greedy
import Uptime.Proofs.Round.Workers

/-!
# Diligence

A cycle that is not cancelled probes all of its targets, in the order of names, and is over with the
last of the probes. As long as a target is not probed all workers are taken, and there are always
some: how many is found by clamping what is wanted, and the bounds for that are never the wrong way
round.

## Main definitions

* `clamp?`, `wantedWorkers`, `workerCeiling`: how the number of workers is found.
* `Staffing`: what holds of that number.
* `Episode.Diligent`: all targets are probed as soon as the workers allow.

## Main results

* `staffing_effectiveWorkers`: there is always a worker, and there are never too many.
* `RunPlan.diligent_episode`: an episode that is not cancelled is diligent.
* `diligence`: so are the rounds, whatever others do meanwhile.
-/

namespace Uptime

/-! ### The number of workers -/

/-- A number as close to `x` as the bounds allow; nothing if they are the wrong way round. -/
def clamp? (low high x : Nat) : Option Nat :=
  if high < low then none
  else some (if x < low then low else if high < x then high else x)

theorem clamp?_of_le {low high : Nat} (h : low ≤ high) (x : Nat) :
    clamp? low high x = some (max low (min x high)) := by
  rw [clamp?, if_neg (not_lt.mpr h)]
  congr 1
  split
  · omega
  · split <;> omega

/-- The number of workers that is wanted. -/
def wantedWorkers (configured targets : Nat) : Nat :=
  if configured = 0 then targets else configured

/-- The number of workers above which there are too many. -/
def workerCeiling (targets : Nat) : Nat := max 1 (min targets maxWorkers)

/-- There are never more workers than there may be. -/
theorem effectiveWorkers_le_maxWorkers (configured targets : Nat) :
    effectiveWorkers configured targets ≤ maxWorkers := by
  have hmax : 1 ≤ maxWorkers := by decide
  exact max_le hmax ((Nat.min_le_right _ _).trans (max_le hmax (Nat.min_le_right _ _)))

/-- What holds of the number of workers. -/
structure Staffing (configured targets : Nat) : Prop where
  /-- It is found by clamping, -/
  clamp?_eq : clamp? 1 (workerCeiling targets) (wantedWorkers configured targets) =
    some (effectiveWorkers configured targets)
  /-- there is a worker, -/
  pos : 1 ≤ effectiveWorkers configured targets
  /-- there are no more than targets, nor more than the most there may be, -/
  le_min : targets ≠ 0 → effectiveWorkers configured targets ≤ min targets maxWorkers
  /-- nor more than are configured. -/
  le_configured : configured ≠ 0 → effectiveWorkers configured targets ≤ configured

/-- **There is always a worker**, and there are never too many. -/
theorem staffing_effectiveWorkers (configured targets : Nat) : Staffing configured targets where
  clamp?_eq := clamp?_of_le (le_max_left _ _) _
  pos := effectiveWorkers_pos configured targets
  le_min htargets := by
    have hceiling : 1 ≤ min targets maxWorkers :=
      le_min (Nat.one_le_iff_ne_zero.mpr htargets) (by decide)
    exact max_le hceiling ((Nat.min_le_right _ _).trans_eq (max_eq_right hceiling))
  le_configured hconfigured := effectiveWorkers_le hconfigured targets

/-! ### Episodes -/

namespace Episode

/-- The number of targets. -/
def size (e : Episode) : Nat := e.opened.registry.identities.length

/-- All targets are probed as soon as the workers allow. -/
structure Diligent (p : RunPlan) (e : Episode) : Prop where
  /-- The targets are in the strict order of names, -/
  sorted : e.opened.registry.Sorted
  /-- and each of them is probed once, -/
  targets_eq : e.targets = e.opened.registry.identities
  /-- one after the other. -/
  starts : (e.times.map Launch.start).Pairwise (· ≤ ·)
  /-- A probe takes as long as it takes. -/
  runs : ∀ probe ∈ e.cycle.launched, e.cycle.start ≤ probe.2.start ∧
    probe.2.finish = probe.2.start + p.latency probe.1
  /-- There are never more probes under way than workers, and no fewer as long as a target is to be
  probed, -/
  greedy : Greedy (effectiveWorkers p.workers e.size) e.cycle.start e.times
  /-- nor are there if a probe counts that ends as soon as it is launched. -/
  peak_le : e.cycle.peak ≤ effectiveWorkers p.workers e.size
  /-- There are never more than targets, nor more than the most workers there may be. -/
  inFlight_le_min : ∀ t, inFlight e.times t ≤ min e.size maxWorkers
  /-- Without targets the cycle ends at once, -/
  finish_of_nil : e.opened.registry.identities = [] → e.cycle.finish = e.cycle.start
  /-- and else when the last of the probes does. -/
  finish_of_ne_nil : e.opened.registry.identities ≠ [] →
    IsGreatest {t | ∃ probe ∈ e.cycle.launched, probe.2.finish = t} e.cycle.finish

end Episode

namespace RunPlan

variable {p : RunPlan} {k start : Nat} {m : Monitor}

/-- The last decision is made before the end of a cycle. -/
theorem decidedAt_le_finish_episode :
    decidedAt start (p.episode k start m).times (p.episode k start m).times.length ≤
      (p.episode k start m).cycle.finish := by
  cases hlength : (p.episode k start m).times.length with
  | zero =>
    rw [decidedAt_zero]
    exact le_finish start (p.launchesFrom start m)
  | succ i =>
    obtain ⟨l, hl⟩ : ∃ l, (p.episode k start m).times[i]? = some l :=
      ⟨_, List.getElem?_eq_getElem (hlength ▸ Nat.lt_succ_self i)⟩
    obtain ⟨probe, hprobe, rfl⟩ := List.mem_map.mp (List.mem_of_getElem? hl)
    obtain ⟨-, hruns, hfinish⟩ := p.runs_episode k start m hprobe
    rw [decidedAt_succ hl]
    exact (Nat.le_add_right _ _).trans (hruns ▸ hfinish)

/-- **A cycle that is not cancelled until it has ended probes all of its targets.** -/
theorem targets_episode_eq
    (hcancelled : ∀ c ∈ p.cancelledFrom, (p.episode k start m).cycle.finish < c) :
    (p.episode k start m).targets = (m.sync true).registry.identities := by
  refine (p.prefix_targets_episode k start m).eq_of_length_le (not_lt.mp fun hlt => ?_)
  -- a target is left out if that was cancelled when it was decided on, which is before the end
  cases hc : p.cancelledFrom with
  | some c =>
    have hdecided := (p.heeds_episode k start m hc).refused hlt
    exact absurd (hdecided.trans decidedAt_le_finish_episode) (not_le.mpr (hcancelled c hc))
  | none =>
    have hlength : (p.episode k start m).targets.length = (p.launchesFrom start m).length := by
      rw [← p.times_episode k start m, Episode.targets, Episode.times, List.length_map,
        List.length_map]
    have hrefused := launches_refused (by rwa [List.length_map, ← hlength] :
      (p.launchesFrom start m).length < ((m.sync true).registry.identities.map p.latency).length)
    rw [hc] at hrefused
    cases hrefused

theorem inFlight_episode_le (t : Nat) : inFlight (p.episode k start m).times t ≤
    (m.sync true).registry.identities.length := by
  rw [times_episode]
  exact List.countP_le_length.trans (p.length_launchesFrom_le start m)

/-- **A cycle that is not cancelled until it has ended is diligent.** -/
theorem diligent_episode
    (hcancelled : ∀ c ∈ p.cancelledFrom, (p.episode k start m).cycle.finish < c) :
    (p.episode k start m).Diligent p := by
  have hpos := effectiveWorkers_pos p.workers (m.sync true).registry.identities.length
  have htargets := targets_episode_eq hcancelled
  have hgreedy : Greedy (effectiveWorkers p.workers (m.sync true).registry.identities.length) start
      (p.episode k start m).times := by
    rw [times_episode]
    exact greedy_launches hpos
  refine
    { sorted := sorted_opened m
      targets_eq := htargets
      starts := ?_
      runs := fun probe hprobe => ?_
      greedy := hgreedy
      peak_le := ?_
      inFlight_le_min := fun t => le_min (inFlight_episode_le t) ?_
      finish_of_nil := fun hnil => ?_
      finish_of_ne_nil := fun hne => ?_ }
  · rw [times_episode]
    exact (pairwise_start_launches _ _ start [] _).of_cons
  · obtain ⟨hstart, hruns, -⟩ := p.runs_episode k start m hprobe
    exact ⟨hstart, hruns⟩
  · exact peakFrom_launches_le hpos (Nat.zero_le _) [] rfl
  · exact (hgreedy.inFlight_le t).trans (effectiveWorkers_le_maxWorkers _ _)
  · have hlaunched : (p.episode k start m).cycle.launched = [] :=
      List.map_eq_nil_iff.mp (htargets.trans hnil)
    refine (p.finish_episode k start m).resolve_right ?_
    rintro ⟨probe, hprobe, -⟩
    rw [hlaunched] at hprobe
    cases hprobe
  · refine ⟨?_, ?_⟩
    · rcases p.finish_episode k start m with hfinish | ⟨probe, hprobe, hfinish⟩
      · -- a cycle that ends at once has probes that end at once
        obtain ⟨id, hid⟩ := List.exists_mem_of_ne_nil _ hne
        obtain ⟨probe, hprobe, rfl⟩ := List.mem_map.mp (htargets.symm ▸ hid :
          id ∈ (p.episode k start m).targets)
        obtain ⟨hstart, hruns, hle⟩ := p.runs_episode k start m hprobe
        exact ⟨probe, hprobe, le_antisymm hle (by omega)⟩
      · exact ⟨probe, hprobe, hfinish.symm⟩
    · rintro t ⟨probe, hprobe, rfl⟩
      exact (p.runs_episode k start m hprobe).2.2

end RunPlan

/-! ### Cycles -/

/-- **Cycles are diligent**: there is always a worker and never one too many; a cycle that is not
cancelled probes all of its targets as soon as the workers allow, however long the probes take; and
so does a round, whatever others do meanwhile. -/
theorem diligence :
    (∀ configured targets, Staffing configured targets) ∧
    (∀ (p : RunPlan) (k start : Nat) (m : Monitor),
      (∀ c ∈ p.cancelledFrom, (p.episode k start m).cycle.finish < c) →
      (p.episode k start m).Diligent p) ∧
    ∀ (configured : Nat) (m : Monitor) (before after : List RoundMove) (q r : Round), m.Reachable →
      Round.run? configured m before = some q →
      Round.run? configured m (before ++ .read :: after) = some r →
      r.Diligent configured q.monitor.registry.identities after :=
  ⟨staffing_effectiveWorkers, fun _ _ _ _ => RunPlan.diligent_episode,
    fun _ _ _ _ _ _ => Round.diligent_run⟩

/-- Two workers probe four targets. The first probe ends as soon as it is launched, so that the next
two are launched at the same time; the last one has to wait. The cycle would be cancelled one moment
after its end. In a round that has launched two probes both workers are taken. -/
theorem diligence_four :
    let latency (id : Identity) : Nat :=
      if id.name = "a" then 0 else if id.name = "b" then 5 else if id.name = "c" then 3 else 1
    let p : RunPlan := ⟨1000, 2, latency, fun _ _ => true, some 6, none⟩
    let names := ["d", "b", "c", "a"]
    let m : Monitor := ⟨{}, ⟨⟨names.map fun name => ⟨name, "h", 80, true⟩⟩, {}⟩⟩
    let before : List RoundMove := [.listed true, .adopted]
    let after : List RoundMove := [.launched, .launched]
    Staffing 2 4 ∧
      ((p.episode 0 0 m).Diligent p ∧
        (p.episode 0 0 m).cycle.launched.map (fun probe => (probe.1.name, probe.2)) =
          [("a", ⟨0, 0⟩), ("b", ⟨0, 5⟩), ("c", ⟨0, 3⟩), ("d", ⟨3, 4⟩)] ∧
        (p.episode 0 0 m).cycle.finish = 5 ∧ (p.episode 0 0 m).cycle.peak = 2) ∧
      ∃ q r, Round.run? 2 m before = some q ∧ Round.run? 2 m (before ++ .read :: after) = some r ∧
        r.Diligent 2 q.monitor.registry.identities after ∧
        r.busy = 2 ∧ r.waiting.map Identity.name = ["c", "d"] ∧
        r.step? 2 .launched = none := by
  intro latency p names m before after
  obtain ⟨hstaffing, hepisodes, hrounds⟩ := diligence
  have hround : ∃ q ∈ Round.run? 2 m before, ∃ r ∈ Round.run? 2 m (before ++ .read :: after),
      r.busy = 2 ∧ r.waiting.map Identity.name = ["c", "d"] ∧ r.step? 2 .launched = none := by
    decide +kernel
  obtain ⟨q, hq, r, hr, hbusy⟩ := hround
  refine ⟨hstaffing 2 4, ⟨hepisodes p 0 0 m (by decide +kernel), by decide +kernel⟩, q, r, hq, hr,
    hrounds 2 m before after q r ⟨[], rfl⟩ hq hr, hbusy⟩

end Uptime
