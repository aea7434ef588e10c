import Mathlib.Algebra.Order.BigOperators.Group.List
import Mathlib.Algebra.Ring.Nat
import Uptime.Proofs.Round.Order

/-!
# The progress of a round

Whatever others do meanwhile, a round that is not over can take a step, and it takes a few steps for
each of its probes at most. So it comes to its end if its probes come to theirs.

## Main definitions

* `Round.rank`: how far a round has come, counted in its own steps at least.

## Main results

* `Round.Step.rank_lt`, `Round.Step.rank_eq`: own steps take it further, and others do not change
  that.
* `Round.countP_isOwn_le`: the number of steps is bounded.
* `Round.Orderly.exists_step?`: a round that is not over can take a step.
-/

namespace Uptime

/-- How far a probe has come. -/
def ProbeStage.rank : ProbeStage → Nat
  | running => 1
  | applied .. => 2
  | ended _ => 3
  | collected => 4

/-- How far a round has come, but for its probes. -/
def RoundStage.rank : RoundStage → Nat
  | listing => 0
  | adopting _ => 1
  | reading => 2
  | probing .. => 3
  | finished => 4

namespace Round

/-- How far a round has come. -/
def rank (r : Round) : Nat := r.stage.rank + (r.tasks.map fun t => t.stage.rank).sum

section

variable {workers : Nat} {m : Monitor} {r r' : Round} {a : RoundMove} {moves : List RoundMove}

private theorem sum_map_set {α : Type} {f : α → Nat} {xs : List α} {i : Nat} {x : α}
    (h : xs[i]? = some x) (y : α) :
    ((xs.set i y).map f).sum + f x = (xs.map f).sum + f y := by
  obtain ⟨hi, rfl⟩ := List.getElem?_eq_some_iff.mp h
  have hnew := ((List.set_perm_cons_eraseIdx hi y).map f).sum_nat
  have hold := ((List.getElem_cons_eraseIdx_perm hi).map f).sum_nat
  rw [List.map_cons, List.sum_cons] at hnew hold
  omega

/-- A probe that comes to a later stage takes its round further. -/
private theorem rank_lt_of_set {i : Nat} {t u : ProbeTask} (htask : r.tasks[i]? = some t)
    (htasks : r'.tasks = r.tasks.set i u) (hstage : r'.stage = r.stage)
    (hlt : t.stage.rank < u.stage.rank) : r.rank < r'.rank := by
  have hsum := sum_map_set (f := fun t : ProbeTask => t.stage.rank) htask u
  rw [rank, rank, htasks, hstage]
  omega

/-- **A step of its own takes a round further.** -/
theorem Step.rank_lt (h : Step workers r a r') (ha : a.isOwn = true) : r.rank < r'.rank := by
  cases h with
  | listed hlisting succeeds => simp [rank, RoundStage.rank, hlisting]
  | adopted hadopting => simp [rank, RoundStage.rank, hadopting]
  | read hreading => simp [rank, RoundStage.rank, hreading]
  | launched hprobing hbusy => simp [rank, RoundStage.rank, ProbeStage.rank, hprobing]
  | died htask
  | discarded htask _
  | applied htask _
  | recorded htask _
  | collected _ htask => exact rank_lt_of_set htask rfl rfl (by simp [ProbeStage.rank])
  | handed hprobing hcollected => simp [rank, RoundStage.rank, hprobing]
  | cancelled hprobing => cases ha
  | stored store => cases ha
  | replaced definitions => cases ha

/-- A step of others does not. -/
theorem Step.rank_eq (h : Step workers r a r') (ha : a.isOwn = false) : r'.rank = r.rank := by
  cases h with
  | cancelled hprobing => simp [rank, RoundStage.rank, hprobing]
  | stored store => rfl
  | replaced definitions => rfl
  | _ => cases ha

theorem rank_le (r : Round) : r.rank ≤ 4 + 4 * r.launched.length := by
  have hstage : r.stage.rank ≤ 4 := by cases r.stage <;> simp [RoundStage.rank]
  have htasks : (r.tasks.map fun t => t.stage.rank).sum ≤ r.tasks.length * 4 := by
    refine (List.sum_le_card_nsmul _ 4 fun n hn => ?_).trans_eq
      (by rw [List.length_map, Nat.nsmul_eq_mul])
    obtain ⟨t, -, rfl⟩ := List.mem_map.mp hn
    cases t.stage <;> simp [ProbeStage.rank]
  rw [rank, launched, List.length_map]
  omega

private theorem countP_isOwn_add_rank_le :
    ∀ {r : Round} {moves : List RoundMove}, runFrom? workers r moves = some r' →
      moves.countP RoundMove.isOwn + r.rank ≤ r'.rank := by
  intro r moves
  induction moves generalizing r with
  | nil =>
    intro h
    cases h
    simp
  | cons a moves ih =>
    intro h
    obtain ⟨q, hq, hrest⟩ := Option.bind_eq_some_iff.mp h
    have hcount := ih hrest
    rw [List.countP_cons]
    cases ha : a.isOwn with
    | true =>
      have hlt := (Step.of_step? hq).rank_lt ha
      simp only [if_true]
      omega
    | false =>
      rw [(Step.of_step? hq).rank_eq ha] at hcount
      simpa using hcount

/-- **A round takes a few steps for each of its probes at most.** -/
theorem countP_isOwn_le (h : run? workers m moves = some r) :
    moves.countP RoundMove.isOwn ≤ 4 + 4 * r.launched.length :=
  (Nat.le_of_add_right_le (countP_isOwn_add_rank_le h)).trans r.rank_le

/-- **A round that is not over can take a step.** -/
theorem Orderly.exists_step? (h : r.Orderly) (hfinished : r.stage ≠ .finished) (workers : Nat) :
    ∃ a r', a.isOwn = true ∧ r.step? workers a = some r' := by
  cases hstage : r.stage with
  | listing => exact ⟨.listed true, _, rfl, by simp [step?, hstage]; rfl⟩
  | adopting definitions => exact ⟨.adopted, _, rfl, by simp [step?, hstage]; rfl⟩
  | reading => exact ⟨.read, _, rfl, by simp [step?, hstage]; rfl⟩
  | finished => exact absurd hstage hfinished
  | probing free waiting =>
    by_cases hbusy : ∃ t ∈ r.tasks, t.stage.isBusy = true
    · -- a probe that takes up a worker can end or be recorded
      obtain ⟨⟨id, stage⟩, ht, hbusy⟩ := hbusy
      obtain ⟨i, htask⟩ := List.mem_iff_getElem?.mp ht
      cases stage with
      | running => exact ⟨.died i, _, rfl, by simp [step?, htask]; rfl⟩
      | applied result event => exact ⟨.recorded i true, _, rfl, by simp [step?, htask]; rfl⟩
      | ended event => cases hbusy
      | collected => cases hbusy
    · cases waiting with
      | cons id ids =>
        -- all workers are free
        have hfree : r.busy = 0 := List.countP_eq_zero.mpr fun t ht hb => hbusy ⟨t, ht, hb⟩
        have hpos := h.workers_pos _ _ hstage
        exact ⟨.launched, _, rfl, by simp [step?, hstage, hfree, hpos]; rfl⟩
      | nil =>
        by_cases hcollected : ∀ t ∈ r.tasks, t.stage = .collected
        · exact ⟨.handed, _, rfl, by simp only [step?, hstage]; rw [if_pos hcollected]⟩
        · -- what is neither busy nor collected can be collected
          push Not at hcollected
          obtain ⟨⟨id, stage⟩, ht, hcollected⟩ := hcollected
          obtain ⟨i, htask⟩ := List.mem_iff_getElem?.mp ht
          cases stage with
          | running => exact absurd ⟨_, ht, rfl⟩ hbusy
          | applied result event => exact absurd ⟨_, ht, rfl⟩ hbusy
          | ended event => exact ⟨.collected i, _, rfl, by simp [step?, hstage, htask]; rfl⟩
          | collected => exact absurd rfl hcollected

end

end Round

end Uptime
