import Uptime.Proofs.Round.Sequential
import Uptime.Proofs.Station

/-!
# A running service as a station

A service with a bot runs one cycle after the other and tells the events of each. Its cycles are
rounds of a station, whose desk has the same messages pending.

## Main results

* `Station.exists_runFrom_within`: the desk tells what its rounds hand over.
* `Running.exists_station`: a cycle of a running service is a round of a station.
-/

namespace Uptime

variable {σ ω : Type}

theorem Round.Step.batches_eq {workers : Nat} {r r' : Round} {a : RoundMove}
    (h : Step workers r a r') :
    r'.batches = r.batches ++ if a = .handed then [r.events] else [] := by
  cases h with
  | handed hprobing hcollected => rfl
  | _ => exact (List.append_nil _).symm

/-- **The desk tells what its rounds hand over**, one batch after the other. -/
theorem Station.exists_runFrom_within (ch : Channel σ) (window : Span) {workers : Nat} :
    ∀ {moves : List RoundMove} {s : Station σ} {r : Round},
      Round.runFrom? workers s.round moves = some r →
      ∃ batches, r.batches = s.round.batches ++ batches ∧
        (moves.map StationMove.within).foldlM (step? ch window workers) s =
          some ⟨r, batches.foldl (Desk.take ch window) s.desk⟩ := by
  intro moves
  induction moves with
  | nil =>
    intro s r h
    cases h
    exact ⟨[], (List.append_nil _).symm, rfl⟩
  | cons a moves ih =>
    intro s r h
    obtain ⟨q, hq, hrest⟩ := Option.bind_eq_some_iff.mp h
    have hbatches := (Round.Step.of_step? hq).batches_eq
    obtain ⟨batches, heq, hrun⟩ :=
      ih (s := ⟨q, if a = .handed then s.desk.take ch window s.round.events else s.desk⟩) hrest
    refine ⟨(if a = .handed then [s.round.events] else []) ++ batches, ?_, ?_⟩
    · rw [heq, hbatches, List.append_assoc]
    · rw [List.map_cons, List.foldlM_cons, step?, hq, Option.map_some, Option.bind_eq_bind,
        Option.bind_some, hrun]
      split <;> rfl

/-- **A cycle of a running service is a round of a station.** -/
theorem Running.exists_station {service : Service} {bot : Bot} (hbot : service.bot = some bot)
    (net : Network σ) {p : Prober ω} (hp : p.Quiet) (r : Running σ) (world : ω) {d : Desk σ}
    (hchannel : d.channel = r.network) (hpending : d.pending = r.pending) :
    ∃ (moves : List RoundMove) (s : Station σ), (moves.map StationMove.within).foldlM
        (Station.step? (bot.channel net) service.window service.settings.check.workers)
        ⟨{ monitor := r.monitor }, d⟩ = some s ∧
      s.round.stage = .finished ∧
      (r.cycle service net p world).1 = ⟨s.round.monitor, s.desk.pending, s.desk.channel⟩ := by
  obtain ⟨moves, q, hrun, hfinished, hmonitor, -, -, hbatches⟩ :=
    Cycle.exists_round hp service.settings.check.workers false true r.monitor world
  obtain ⟨batches, heq, htold⟩ := Station.exists_runFrom_within (bot.channel net) service.window
    (s := ⟨{ monitor := r.monitor }, d⟩) hrun
  refine ⟨moves, _, htold, hfinished, ?_⟩
  obtain rfl : batches = [_] := heq.symm.trans hbatches
  simp only [cycle, alert, hbot, hmonitor, List.foldl_cons, List.foldl_nil, Desk.take, Desk.tell,
    hchannel, hpending]

end Uptime
