import Mathlib.Data.List.Basic
import Uptime.Proofs.Timeline

/-!
# Launch times

Before a probe is launched it is decided whether it is, and then it may have to wait for a worker.
The decision about the first probe is made when the cycle begins, and that about any other one when
the one before has been launched. So a decision is at most one launch ahead.

## Main definitions

* `decidedAt`: when it is decided on the launch of a number.

## Main results

* `launches_decided`, `launches_refused`: a probe is launched exactly if that was not cancelled when
  it was decided on.
* `decidedAt_mono`, `decidedAt_le_start`: decisions and launches take turns.
* `last_of_cancelled`: only the last launch can come after a cancellation.
* `busy_of_decidedAt_lt`: a probe that is not launched at once waits for a worker.
-/

namespace Uptime

/-- When it is decided on the launch with a number, after a cycle that begins at `now`. -/
def decidedAt (now : Nat) : List Launch → Nat → Nat
  | _, 0 => now
  | [], _ + 1 => now
  | l :: ls, i + 1 => decidedAt l.start ls i

@[simp] theorem decidedAt_zero (now : Nat) (ls : List Launch) : decidedAt now ls 0 = now := by
  cases ls <;> rfl

@[simp] theorem decidedAt_cons_succ (now : Nat) (l : Launch) (ls : List Launch) (i : Nat) :
    decidedAt now (l :: ls) (i + 1) = decidedAt l.start ls i := rfl

/-- It is decided on a launch when the one before it takes place. -/
theorem decidedAt_succ {now : Nat} {ls : List Launch} {i : Nat} {l : Launch}
    (h : ls[i]? = some l) : decidedAt now ls (i + 1) = l.start := by
  induction ls generalizing now i with
  | nil => simp at h
  | cons l' ls ih =>
    cases i with
    | zero =>
      obtain rfl := Option.some.inj h
      rw [decidedAt_cons_succ, decidedAt_zero]
    | succ i => exact ih (by simpa using h)

/-- A worker is not free before it is waited for. -/
theorem le_freeAt {workers now : Nat} {ends : List Nat} (h : ∀ t ∈ ends, now < t) :
    now ≤ freeAt workers now ends := by
  rw [freeAt]
  split
  · exact Nat.le_refl now
  · cases hmin : ends.min? with
    | none => exact Nat.le_refl now
    | some t => exact Nat.le_of_lt (h t (List.min?_mem hmin))

section

variable {workers : Nat} {cancelled : Nat → Bool} {now : Nat} {ends ds : List Nat}

/-- **What is launched was not cancelled** when it was decided on. -/
theorem launches_decided {i : Nat} (h : i < (launches workers cancelled now ends ds).length) :
    cancelled (decidedAt now (launches workers cancelled now ends ds) i) = false := by
  induction ds generalizing now ends i with
  | nil => simp [launches] at h
  | cons d ds ih =>
    rw [launches] at h ⊢
    split at h
    · simp at h
    · next hcancelled =>
      rw [if_neg hcancelled]
      cases i with
      | zero => simpa using hcancelled
      | succ i => exact ih (Nat.lt_of_succ_lt_succ h)

/-- **What is not launched was cancelled** when it was decided on. -/
theorem launches_refused
    (h : (launches workers cancelled now ends ds).length < ds.length) :
    cancelled (decidedAt now (launches workers cancelled now ends ds)
      (launches workers cancelled now ends ds).length) = true := by
  induction ds generalizing now ends with
  | nil => simp at h
  | cons d ds ih =>
    rw [launches] at h ⊢
    split at h
    · next hcancelled =>
      rw [if_pos hcancelled]
      simpa using hcancelled
    · next hcancelled =>
      rw [if_neg hcancelled]
      exact ih (Nat.lt_of_succ_lt_succ h)

/-- A launch takes place when it is decided on, or later. -/
theorem decidedAt_le_start {i : Nat} {l : Launch}
    (h : (launches workers cancelled now ends ds)[i]? = some l) :
    decidedAt now (launches workers cancelled now ends ds) i ≤ l.start := by
  induction ds generalizing now ends i with
  | nil => simp [launches] at h
  | cons d ds ih =>
    rw [launches] at h ⊢
    split at h
    · simp at h
    · next hcancelled =>
      rw [if_neg hcancelled]
      cases i with
      | zero =>
        obtain rfl := Option.some.inj h
        exact le_freeAt fun t ht => by simpa using (List.mem_filter.mp ht).2
      | succ i => exact ih (by simpa using h)

/-- A probe ends when its time is over. -/
theorem finish_eq_start_add {i : Nat} {l : Launch} {d : Nat}
    (h : (launches workers cancelled now ends ds)[i]? = some l) (hd : ds[i]? = some d) :
    l.finish = l.start + d := by
  induction ds generalizing now ends i with
  | nil => simp at hd
  | cons d' ds ih =>
    rw [launches] at h
    split at h
    · simp at h
    · cases i with
      | zero =>
        obtain rfl := Option.some.inj h
        obtain rfl := Option.some.inj hd
        rfl
      | succ i => exact ih (by simpa using h) (by simpa using hd)

/-- **A probe that is not launched at once waits for a worker**: when it is decided on, all of them
are taken. -/
theorem busy_of_decidedAt_lt {i : Nat} {l : Launch}
    (h : (launches workers cancelled now ends ds)[i]? = some l)
    (hlt : decidedAt now (launches workers cancelled now ends ds) i < l.start) :
    workers ≤
      ends.countP (decidedAt now (launches workers cancelled now ends ds) i < ·) +
        ((launches workers cancelled now ends ds).take i).countP
          fun e => decidedAt now (launches workers cancelled now ends ds) i < e.finish := by
  induction ds generalizing now ends i with
  | nil => simp [launches] at h
  | cons d ds ih =>
    rw [launches] at h hlt ⊢
    split at h
    · simp at h
    · next hcancelled =>
      rw [if_neg hcancelled] at hlt ⊢
      cases i with
      | zero =>
        obtain rfl := Option.some.inj h
        rw [decidedAt_zero] at hlt ⊢
        rw [List.take_zero, List.countP_nil, Nat.add_zero, List.countP_eq_length_filter]
        by_contra hfree
        rw [freeAt, if_pos (Nat.lt_of_not_le hfree)] at hlt
        exact Nat.lt_irrefl _ hlt
      | succ i =>
        dsimp only at h hlt ⊢
        -- from here on the time of the launch is any
        generalize freeAt workers now (ends.filter (now < ·)) = start at h hlt ⊢
        have hbusy := ih (i := i) h hlt
        rw [List.countP_cons, Nat.add_right_comm, Nat.add_assoc] at hbusy
        rw [decidedAt_cons_succ, List.take_succ_cons, List.countP_cons]
        exact hbusy

end

/-! ### Cancellations -/

section

variable {workers : Nat} {cancelled : Nat → Bool} {now : Nat} {ds : List Nat} {ls : List Launch}

/-- Decisions and launches take turns. -/
theorem decidedAt_mono (hls : ls = launches workers cancelled now [] ds) {i j : Nat} (hij : i ≤ j)
    (hj : j ≤ ls.length) : decidedAt now ls i ≤ decidedAt now ls j := by
  induction hij with
  | refl => exact Nat.le_refl _
  | @step j _ ih =>
    have hl : ls[j]? = some ls[j] := List.getElem?_eq_getElem hj
    rw [decidedAt_succ hl]
    refine Nat.le_trans (ih (Nat.le_of_lt hj)) ?_
    subst hls
    exact decidedAt_le_start hl

/-- **Only the last launch can come after a cancellation.** -/
theorem last_of_cancelled (hls : ls = launches workers cancelled now [] ds) {i : Nat} {l : Launch}
    (h : ls[i]? = some l) (hcancelled : cancelled l.start = true) : i + 1 = ls.length := by
  obtain ⟨hi, -⟩ := List.getElem?_eq_some_iff.mp h
  by_contra hne
  subst hls
  have hnext := launches_decided (Nat.lt_of_le_of_ne hi hne)
  rw [decidedAt_succ h, hcancelled] at hnext
  cases hnext

/-- **While a probe waits for a worker** all of them are under way. -/
theorem workers_le_inFlight (hls : ls = launches workers cancelled now [] ds) {i : Nat} {l : Launch}
    (h : ls[i]? = some l) (hlt : decidedAt now ls i < l.start) :
    workers ≤ inFlight (ls.take i) (decidedAt now ls i) := by
  obtain ⟨hi, -⟩ := List.getElem?_eq_some_iff.mp h
  have hstarted : ∀ e ∈ ls.take i, e.start ≤ decidedAt now ls i := by
    intro e he
    obtain ⟨j, hj⟩ := List.mem_iff_getElem?.mp he
    rw [List.getElem?_take] at hj
    split at hj
    · next hji =>
      rw [← decidedAt_succ hj]
      exact decidedAt_mono hls hji (Nat.le_of_lt hi)
    · cases hj
  have hbusy : workers ≤ (ls.take i).countP fun e => decidedAt now ls i < e.finish := by
    subst hls
    simpa using busy_of_decidedAt_lt h hlt
  rw [inFlight]
  refine Nat.le_trans hbusy (Nat.le_of_eq (List.countP_congr fun e he => ?_))
  simp [hstarted e he]

end

/-! ### The end of a cycle -/

/-- A cycle does not end before its probes. -/
theorem finish_le_finish (start : Nat) {ls : List Launch} {l : Launch} (h : l ∈ ls) :
    l.finish ≤ finish start ls := by
  induction ls generalizing start with
  | nil => simp at h
  | cons l' ls ih =>
    rcases List.mem_cons.mp h with rfl | h
    · exact Nat.le_trans (Nat.le_max_right start _) (le_finish _ ls)
    · exact ih (max start l'.finish) h

/-- **A cycle ends with its last probe**, or at once if there are none. -/
theorem finish_eq_or_exists (start : Nat) (ls : List Launch) :
    finish start ls = start ∨ ∃ l ∈ ls, finish start ls = l.finish := by
  induction ls generalizing start with
  | nil => exact .inl rfl
  | cons l ls ih =>
    rcases ih (max start l.finish) with hfinish | ⟨l', hl', hfinish⟩
    · rcases Nat.le_total start l.finish with hle | hle
      · exact .inr ⟨l, List.mem_cons_self, hfinish.trans (Nat.max_eq_right hle)⟩
      · exact .inl (hfinish.trans (Nat.max_eq_left hle))
    · exact .inr ⟨l', List.mem_cons_of_mem _ hl', hfinish⟩

end Uptime
