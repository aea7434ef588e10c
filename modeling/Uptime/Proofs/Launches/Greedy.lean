import Mathlib.Order.Nat
import Uptime.Proofs.Launches

/-!
# Launches are greedy

A probe is launched as soon as there is a worker for it, and no sooner. So there are never more
probes under way than workers, and as long as a probe is not launched all workers are taken.

## Main definitions

* `taken`: how many workers are taken at a time.
* `Greedy`: launches use all workers that there are.

## Main results

* `taken_freeAt_lt`, `le_taken_of_lt_freeAt`: until a launch all workers are taken, and then one is
  free.
* `greedy_launches`: launches are greedy.
* `peakFrom_launches_le`: there are never more probes under way together than workers.
-/

namespace Uptime

/-- How many workers are taken at a time by probes that end at the times `ends`. -/
def taken (ends : List Nat) (t : Nat) : Nat := ends.countP (t < ·)

section

variable {workers now t : Nat} {ends : List Nat}

theorem taken_le_taken {s : Nat} (h : s ≤ t) : taken ends t ≤ taken ends s :=
  List.countP_mono_left fun e _ he => by
    rw [decide_eq_true_eq] at he ⊢
    exact h.trans_lt he

/-- Only what is under way now can be under way later. -/
theorem taken_filter (h : now ≤ t) : taken (ends.filter (now < ·)) t = taken ends t := by
  rw [taken, taken, List.countP_filter]
  refine List.countP_congr fun e _ => ?_
  rw [Bool.and_eq_true, decide_eq_true_eq, decide_eq_true_eq]
  exact and_iff_left_of_imp h.trans_lt

theorem le_freeAt_filter : now ≤ freeAt workers now (ends.filter (now < ·)) :=
  le_freeAt fun e he => by simpa using (List.mem_filter.mp he).2

@[simp] theorem taken_nil (t : Nat) : taken [] t = 0 := rfl

theorem taken_cons_le (e : Nat) (ends : List Nat) (t : Nat) :
    taken (e :: ends) t ≤ taken ends t + 1 := by
  rw [taken, List.countP_cons]
  split
  · exact le_rfl
  · exact Nat.le_succ _

/-- **When a probe is launched there is a worker for it.** -/
theorem taken_freeAt_lt (hpos : 0 < workers) (hends : taken ends now ≤ workers) :
    taken ends (freeAt workers now (ends.filter (now < ·))) < workers := by
  rw [taken, List.countP_eq_length_filter] at hends
  by_cases hfree : (ends.filter (now < ·)).length < workers
  · rw [freeAt, if_pos hfree, taken, List.countP_eq_length_filter]
    exact hfree
  · rw [← taken_filter le_freeAt_filter, freeAt, if_neg hfree]
    cases hmin : (ends.filter (now < ·)).min? with
    | none =>
      rw [List.min?_eq_none_iff] at hmin
      rw [hmin] at hfree
      exact absurd hpos hfree
    | some s =>
      -- the probe that ends first has ended by then
      refine (lt_of_le_of_ne List.countP_le_length fun hall => ?_).trans_le hends
      have hs := List.countP_eq_length.mp hall s (List.min?_mem hmin)
      simp at hs

/-- **Until a probe is launched all workers are taken.** -/
theorem le_taken_of_lt_freeAt (hnow : now ≤ t)
    (ht : t < freeAt workers now (ends.filter (now < ·))) : workers ≤ taken ends t := by
  rw [freeAt] at ht
  split at ht
  · exact absurd ht (not_lt.mpr hnow)
  · next hfree =>
    cases hmin : (ends.filter (now < ·)).min? with
    | none =>
      rw [hmin] at ht
      exact absurd ht (not_lt.mpr hnow)
    | some s =>
      rw [hmin] at ht
      -- no probe ends before the first one does
      have hall : taken (ends.filter (now < ·)) t = (ends.filter (now < ·)).length :=
        List.countP_eq_length.mpr fun e he => by
          have hle : s ≤ e := (List.min?_eq_some_iff.mp hmin).2 e he
          simpa using Nat.lt_of_lt_of_le ht hle
      rw [← taken_filter hnow, hall]
      exact not_lt.mp hfree

end

/-! ### Launches -/

section

variable {workers now d t : Nat} {cancelled : Nat → Bool} {ends ds : List Nat} {ls : List Launch}

/-- **Probes are launched one after the other.** -/
theorem pairwise_start_launches (workers : Nat) (cancelled : Nat → Bool) (now : Nat)
    (ends ds : List Nat) :
    (now :: (launches workers cancelled now ends ds).map Launch.start).Pairwise (· ≤ ·) := by
  -- by the decisions: there is none left, it was cancelled before one, or a probe is launched
  fun_induction launches workers cancelled now ends ds with
  | case1 => exact List.pairwise_singleton _ _
  | case2 => exact List.pairwise_singleton _ _
  | case3 now ends d ds hcancelled start ih =>
    have hnow : now ≤ start := le_freeAt_filter
    refine List.pairwise_cons.mpr ⟨fun s hs => ?_, ih⟩
    rcases List.mem_cons.mp hs with rfl | hs
    · exact hnow
    · exact hnow.trans (List.rel_of_pairwise_cons ih hs)

theorem le_start_of_mem_launches {l : Launch} (h : l ∈ launches workers cancelled now ends ds) :
    now ≤ l.start :=
  List.rel_of_pairwise_cons (pairwise_start_launches workers cancelled now ends ds)
    (List.mem_map_of_mem h)

/-- A probe that has been launched takes up a worker until it ends. -/
theorem taken_add_inFlight_cons {start : Nat} (ht : start ≤ t) :
    taken ends t + inFlight (⟨start, start + d⟩ :: ls) t =
      taken ((start + d) :: ends) t + inFlight ls t := by
  rw [taken, taken, inFlight, inFlight, List.countP_cons, List.countP_cons]
  simp only [ht, true_and]
  omega

/-- Nothing is under way before the first launch. -/
theorem inFlight_eq_zero (h : ∀ l ∈ ls, t < l.start) : inFlight ls t = 0 :=
  List.countP_eq_zero.mpr fun l hl => by simp [not_le.mpr (h l hl)]

/-- Launches after some earlier ones never take up more workers than there are. -/
theorem taken_add_inFlight_le (hpos : 0 < workers) (hends : taken ends now ≤ workers)
    (ht : now ≤ t) :
    taken ends t + inFlight (launches workers cancelled now ends ds) t ≤ workers := by
  fun_induction launches workers cancelled now ends ds with
  | case1 => exact (taken_le_taken ht).trans hends
  | case2 => exact (taken_le_taken ht).trans hends
  | case3 now ends d ds hcancelled start ih =>
    have hfree : taken ends start < workers := taken_freeAt_lt hpos hends
    by_cases hlt : t < start
    · -- before the launch there are the earlier probes only
      rw [inFlight_eq_zero, Nat.add_zero]
      · exact (taken_le_taken ht).trans hends
      · refine List.forall_mem_cons.mpr ⟨hlt, fun l hl => ?_⟩
        exact hlt.trans_le (le_start_of_mem_launches hl)
    · rw [taken_add_inFlight_cons (not_lt.mp hlt)]
      exact ih ((taken_cons_le _ _ _).trans hfree) (not_lt.mp hlt)

/-- As long as one of the launches is to come they take up all workers. -/
theorem le_taken_add_inFlight (ht : now ≤ t)
    (hlater : ∃ l ∈ launches workers cancelled now ends ds, t < l.start) :
    workers ≤ taken ends t + inFlight (launches workers cancelled now ends ds) t := by
  fun_induction launches workers cancelled now ends ds with
  | case1 =>
    obtain ⟨l, hl, -⟩ := hlater
    cases hl
  | case2 =>
    obtain ⟨l, hl, -⟩ := hlater
    cases hl
  | case3 now ends d ds hcancelled start ih =>
    by_cases hlt : t < start
    · exact (le_taken_of_lt_freeAt ht hlt).trans (Nat.le_add_right _ _)
    · rw [taken_add_inFlight_cons (not_lt.mp hlt)]
      refine ih (not_lt.mp hlt) ?_
      obtain ⟨l, hl, htl⟩ := hlater
      rcases List.mem_cons.mp hl with rfl | hl
      · exact absurd htl hlt
      · exact ⟨l, hl, htl⟩

/-- Launches use all workers that there are. -/
structure Greedy (workers now : Nat) (ls : List Launch) : Prop where
  /-- No more probes are under way than there are workers, -/
  inFlight_le : ∀ t, inFlight ls t ≤ workers
  /-- and no fewer as long as one of them is to be launched. -/
  inFlight_eq : ∀ t, now ≤ t → (∃ l ∈ ls, t < l.start) → inFlight ls t = workers

/-- **Launches are greedy.** -/
theorem greedy_launches (hpos : 0 < workers) :
    Greedy workers now (launches workers cancelled now [] ds) := by
  have hle : ∀ t, inFlight (launches workers cancelled now [] ds) t ≤ workers := by
    intro t
    by_cases ht : now ≤ t
    · have hsum : taken [] t + inFlight (launches workers cancelled now [] ds) t ≤ workers :=
        taken_add_inFlight_le hpos (Nat.zero_le workers) ht
      rwa [taken_nil, Nat.zero_add] at hsum
    · rw [inFlight_eq_zero fun l hl => (not_le.mp ht).trans_le (le_start_of_mem_launches hl)]
      exact Nat.zero_le workers
  refine ⟨hle, fun t ht hlater => le_antisymm (hle t) ?_⟩
  have hsum := le_taken_add_inFlight ht hlater
  rwa [taken_nil, Nat.zero_add] at hsum

/-- **There are never more probes under way together than workers**, even if some end as soon as
they are launched. -/
theorem peakFrom_launches_le (hpos : 0 < workers) (hends : taken ends now ≤ workers) :
    ∀ earlier : List Launch, earlier.map Launch.finish = ends →
      peakFrom earlier (launches workers cancelled now ends ds) ≤ workers := by
  fun_induction launches workers cancelled now ends ds with
  | case1 => exact fun _ _ => Nat.zero_le workers
  | case2 => exact fun _ _ => Nat.zero_le workers
  | case3 now ends d ds hcancelled start ih =>
    have hfree : taken ends start < workers := taken_freeAt_lt hpos hends
    rintro earlier rfl
    have hrest := ih ((taken_cons_le _ _ _).trans hfree) (⟨start, start + d⟩ :: earlier) rfl
    rw [taken, List.countP_map] at hfree
    rw [peakFrom]
    refine max_le ?_ hrest
    rw [Nat.add_comm]
    exact hfree

end

end Uptime
