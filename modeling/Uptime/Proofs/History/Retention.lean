import Mathlib.Data.List.Basic
import Uptime.History.Retention
import Uptime.Text.Decimal

/-!
# What a cleanup leaves

A cleanup drops exactly the records that have expired, of whatever target, and nothing that is asked
for within the horizon is missing afterwards. The days for which records are kept may be any number:
they are cut down to a century before anything is computed with them, and a time that lies before
the calendar is no reason to drop anything.

## Main definitions

* `RetentionPolicy.expiry`: the time before which records would be expired, whether or not the
  calendar reaches back so far.
* `RetentionPolicy.Cleaned`: what a cleanup comes to.

## Main results

* `CheckLog.readSince_prune`: what is asked for from a later time on is not missing.
* `RetentionPolicy.cutoff?_eq_some_iff`: when there is a time before which records are expired.
* `RetentionPolicy.cleaned_clean`: what a cleanup comes to.
-/

namespace Uptime

/-! ### Milliseconds of the calendar -/

namespace Instant

variable {s t : Instant}

theorem toMillis_mono (h : s ≤ t) : s.toMillis ≤ t.toMillis :=
  Int.ediv_le_ediv (by decide) h

/-- The milliseconds of a time of the calendar are those of the calendar. -/
theorem Representable.toMillis_mem (h : t.Representable) :
    firstMillis ≤ t.toMillis ∧ t.toMillis ≤ lastMillis := by
  obtain ⟨hfirst, hlast⟩ := h
  constructor
  · exact Int.le_ediv_of_mul_le (by decide) hfirst
  · exact Int.lt_add_one_iff.mp (Int.ediv_lt_of_lt_mul (by decide) hlast)

/-- They have 64 bits. -/
theorem Representable.toMillis_int64 (h : t.Representable) :
    Text.int64Min ≤ t.toMillis ∧ t.toMillis ≤ Text.int64Max := by
  obtain ⟨hfirst, hlast⟩ := h.toMillis_mem
  exact ⟨Int.le_trans (by decide) hfirst, Int.le_trans hlast (by decide)⟩

end Instant

/-! ### Dropping records -/

namespace CheckLog

variable {log : CheckLog} {cutoff cutoff' start : Instant}

theorem mem_prune_iff {c : StoredCheck} :
    c ∈ (log.prune cutoff).checks ↔ c ∈ log.checks ∧ cutoff.toMillis ≤ c.checkedAt := by
  simp [isBefore]

/-- What is dropped is counted. -/
theorem countBefore_add_length_prune (log : CheckLog) (cutoff : Instant) :
    log.countBefore cutoff + (log.prune cutoff).checks.length = log.checks.length := by
  rw [countBefore, checks_prune, ← List.countP_eq_length_filter,
    List.length_eq_countP_add_countP (isBefore cutoff)]
  simp only [Bool.not_eq_true, Bool.decide_eq_false]

/-- What is left after an earlier time is left after it again. -/
theorem prune_prune (h : cutoff'.toMillis ≤ cutoff.toMillis) :
    (log.prune cutoff).prune cutoff' = log.prune cutoff := by
  have hkept : ∀ c ∈ (log.prune cutoff).checks, (!isBefore cutoff' c) = true := by
    intro c hc
    have hlater : cutoff'.toMillis ≤ c.checkedAt :=
      Int.le_trans h (mem_prune_iff.mp hc).2
    simpa [isBefore] using hlater
  rw [prune, List.filter_eq_self.mpr hkept]

/-- A later time leaves less. -/
theorem prune_sublist_prune (log : CheckLog) (h : cutoff'.toMillis ≤ cutoff.toMillis) :
    ((log.prune cutoff).checks).Sublist (log.prune cutoff').checks := by
  refine List.monotone_filter_right log.checks fun c hc => ?_
  have hlater : cutoff.toMillis ≤ c.checkedAt := by simpa [isBefore] using hc
  simpa [isBefore] using Int.le_trans h hlater

theorem countBefore_mono (h : cutoff'.toMillis ≤ cutoff.toMillis) :
    log.countBefore cutoff' ≤ log.countBefore cutoff := by
  have hlength := (log.prune_sublist_prune h).length_le
  have hcount := log.countBefore_add_length_prune cutoff
  have hcount' := log.countBefore_add_length_prune cutoff'
  omega

/-- **What is asked for from a later time on is not missing.** -/
theorem readSince_prune (h : cutoff.toMillis ≤ start.toMillis) (target : String) (limit : Nat) :
    (log.prune cutoff).readSince target start limit = log.readSince target start limit := by
  have hfound : ((log.prune cutoff).checks.filter fun c =>
      c.target = target ∧ start.toMillis ≤ c.checkedAt) =
        log.checks.filter fun c => c.target = target ∧ start.toMillis ≤ c.checkedAt := by
    rw [checks_prune, List.filter_filter]
    refine List.filter_congr fun c _ => ?_
    rw [Bool.and_eq_left_iff_imp, decide_eq_true_eq]
    rintro ⟨-, hstart⟩
    simpa [isBefore] using Int.le_trans h hstart
  rw [readSince, hfound, readSince]

end CheckLog

/-! ### The time before which records are expired -/

namespace RetentionPolicy

variable {p q : RetentionPolicy} {now cutoff : Instant} {s : Store}

/-- The time before which records would be expired, whether or not the calendar reaches back so
far. -/
def expiry (p : RetentionPolicy) (now : Instant) : Instant :=
  now - Span.ofDays (min p.days maxRetentionDays)

/-- The horizon is a span that can be computed with: a century at most. -/
theorem horizon_mem (p : RetentionPolicy) : Span.ofDays 0 ≤ p.horizon ∧
    p.horizon ≤ Span.ofDays maxRetentionDays ∧ p.horizon ≤ Span.longest := by
  have hcentury : Span.ofDays 0 ≤ p.horizon ∧ p.horizon ≤ Span.ofDays maxRetentionDays := by
    simp only [horizon, Span.le_def, Span.ofDays, Span.ofSeconds, maxRetentionDays]
    omega
  exact ⟨hcentury.1, hcentury.2, Int.le_trans hcentury.2 (by decide)⟩

theorem sub_horizon (h : 0 < p.days) : (now - p.horizon : Instant) = p.expiry now := by
  have hdays : max 0 (min p.days maxRetentionDays) = min p.days maxRetentionDays := by
    simp only [maxRetentionDays]
    omega
  rw [horizon, hdays, expiry]

/-- **When there is a time before which records are expired**, and which one. -/
theorem cutoff?_eq_some_iff : p.cutoff? now = some cutoff ↔
    0 < p.days ∧ (p.expiry now).Representable ∧ cutoff = p.expiry now := by
  rw [cutoff?]
  split
  · next h => simp [Int.not_lt.mpr h]
  · next h =>
    have hpos : 0 < p.days := Int.not_le.mp h
    rw [Instant.minus?, sub_horizon hpos]
    split
    · next hrep => simp [hpos, hrep, eq_comm]
    · next hrep => simp [hrep]

theorem cutoff?_eq_none_iff : p.cutoff? now = none ↔
    p.days ≤ 0 ∨ ¬ (p.expiry now).Representable := by
  constructor
  · intro h
    by_contra hnot
    rw [not_or, Int.not_le, not_not] at hnot
    exact Option.some_ne_none _ (h ▸ (cutoff?_eq_some_iff.mpr ⟨hnot.1, hnot.2, rfl⟩).symm)
  · intro h
    rw [Option.eq_none_iff_forall_ne_some]
    intro cutoff hsome
    obtain ⟨hpos, hrep, -⟩ := cutoff?_eq_some_iff.mp hsome
    rcases h with hdays | hnot
    · exact absurd hpos (Int.not_lt.mpr hdays)
    · exact hnot hrep

/-- More days reach back farther. -/
theorem expiry_anti (now : Instant) (h : p.days ≤ q.days) : q.expiry now ≤ p.expiry now := by
  simp only [expiry, Instant.le_def, Instant.nanos_sub_span, Span.ofDays, Span.ofSeconds]
  omega

theorem expiry_le (h : 0 < p.days) : p.expiry now ≤ now := by
  simp only [expiry, Instant.le_def, Instant.nanos_sub_span, Span.ofDays, Span.ofSeconds,
    maxRetentionDays]
  omega

/-- If the calendar reaches back far enough for more days, it does so for fewer. -/
theorem representable_expiry (hnow : now.Representable) (hpos : 0 < p.days) (hle : p.days ≤ q.days)
    (h : (q.expiry now).Representable) : (p.expiry now).Representable :=
  ⟨Int.le_trans h.1 (Instant.le_def.mp (expiry_anti now hle)),
    Int.lt_of_le_of_lt (Instant.le_def.mp (expiry_le hpos)) hnow.2⟩

/-! ### Cleaning up -/

theorem clean_of_none (h : p.cutoff? now = none) : p.clean now s = (0, s) := by
  rw [clean, h]

theorem clean_of_some (h : p.cutoff? now = some cutoff) :
    p.clean now s = (s.log.countBefore cutoff, s.prune cutoff) := by
  rw [clean, h]

/-- What a cleanup comes to, which gives a number and leaves a store. -/
structure Cleaned (p : RetentionPolicy) (now : Instant) (s : Store) (count : Nat) (left : Store) :
    Prop where
  /-- Nothing is computed that is not a span or a time of the calendar, with milliseconds of 64
  bits. -/
  horizon_mem : Span.ofDays 0 ≤ p.horizon ∧ p.horizon ≤ Span.ofDays maxRetentionDays ∧
    p.horizon ≤ Span.longest
  cutoff_mem : ∀ cutoff, p.cutoff? now = some cutoff → cutoff.Representable ∧
    Text.int64Min ≤ cutoff.toMillis ∧ cutoff.toMillis ≤ Text.int64Max
  /-- Without a positive number of days nothing is done, nor if the calendar does not reach back so
  far. -/
  eq_self : p.days ≤ 0 ∨ ¬ (p.expiry now).Representable → count = 0 ∧ left = s
  /-- Otherwise exactly the expired records are dropped, -/
  checks_eq : 0 < p.days → (p.expiry now).Representable → left.log.checks =
    s.log.checks.filter fun c => (p.expiry now).toMillis ≤ c.checkedAt
  /-- and their number is given. -/
  count_add : count + left.log.checks.length = s.log.checks.length
  catalog_eq : left.catalog = s.catalog
  /-- Nothing is left for a second cleanup at the same time. -/
  clean_left : p.clean now left = (0, left)
  /-- More days leave no less. -/
  sublist : ∀ q : RetentionPolicy, 0 < p.days → p.days ≤ q.days →
    left.log.checks.Sublist (q.clean now s).2.log.checks ∧ (q.clean now s).1 ≤ count
  /-- No row within the horizon is hidden. -/
  readSince_eq : ∀ start, (∀ cutoff, p.cutoff? now = some cutoff →
    cutoff.toMillis ≤ start.toMillis) → ∀ target limit,
      left.log.readSince target start limit = s.log.readSince target start limit

/-- Fewer days drop what more days drop. -/
theorem clean_anti (hnow : now.Representable) (hpos : 0 < p.days) (hle : p.days ≤ q.days) :
    (p.clean now s).2.log.checks.Sublist (q.clean now s).2.log.checks ∧
      (q.clean now s).1 ≤ (p.clean now s).1 := by
  have hless : (p.clean now s).2.log.checks.Sublist s.log.checks := by
    cases hp : p.cutoff? now with
    | none => rw [clean_of_none hp]
    | some cutoff =>
      rw [clean_of_some hp]
      exact List.filter_sublist
  cases hq : q.cutoff? now with
  | none =>
    rw [clean_of_none hq]
    exact ⟨hless, Nat.zero_le _⟩
  | some cutoff =>
    obtain ⟨-, hrep, rfl⟩ := cutoff?_eq_some_iff.mp hq
    have hp : p.cutoff? now = some (p.expiry now) :=
      cutoff?_eq_some_iff.mpr ⟨hpos, representable_expiry hnow hpos hle hrep, rfl⟩
    have hmillis := Instant.toMillis_mono (expiry_anti now hle)
    rw [clean_of_some hp, clean_of_some hq]
    exact ⟨s.log.prune_sublist_prune hmillis, CheckLog.countBefore_mono hmillis⟩

/-- A cleanup that finds no time before which records are expired. -/
theorem cleaned_of_none (hnow : now.Representable) (h : p.cutoff? now = none) :
    Cleaned p now s 0 s where
  horizon_mem := p.horizon_mem
  cutoff_mem cutoff hsome := absurd (h.symm.trans hsome) (Option.some_ne_none cutoff).symm
  eq_self _ := ⟨rfl, rfl⟩
  checks_eq hpos hrep := by
    rcases cutoff?_eq_none_iff.mp h with hdays | hnot
    · exact absurd hpos (Int.not_lt.mpr hdays)
    · exact absurd hrep hnot
  count_add := Nat.zero_add _
  catalog_eq := rfl
  clean_left := clean_of_none h
  sublist q hpos hle := by
    have hanti := clean_anti (s := s) hnow hpos hle
    rwa [clean_of_none h] at hanti
  readSince_eq _ _ _ _ := rfl

/-- A cleanup that drops what is older than some time. -/
theorem cleaned_of_some (hnow : now.Representable) (h : p.cutoff? now = some cutoff) :
    Cleaned p now s (s.log.countBefore cutoff) (s.prune cutoff) where
  horizon_mem := p.horizon_mem
  cutoff_mem cutoff' hsome := by
    obtain ⟨-, hrep, rfl⟩ := cutoff?_eq_some_iff.mp hsome
    exact ⟨hrep, hrep.toMillis_int64⟩
  eq_self hno := absurd (h.symm.trans (cutoff?_eq_none_iff.mpr hno)) (Option.some_ne_none cutoff)
  checks_eq _ _ := by
    obtain ⟨-, -, rfl⟩ := cutoff?_eq_some_iff.mp h
    refine List.filter_congr fun c _ => ?_
    rw [CheckLog.isBefore, ← decide_not, decide_eq_decide, Int.not_lt]
  count_add := s.log.countBefore_add_length_prune cutoff
  catalog_eq := rfl
  clean_left := by
    have hagain := s.log.prune_prune (Int.le_refl cutoff.toMillis)
    have hcount := (s.log.prune cutoff).countBefore_add_length_prune cutoff
    rw [hagain] at hcount
    rw [clean_of_some h, Store.prune, Store.prune, hagain]
    exact congrArg (·, _) (Nat.add_eq_right.mp hcount)
  sublist q hpos hle := by
    have hanti := clean_anti (s := s) hnow hpos hle
    rwa [clean_of_some h] at hanti
  readSince_eq start hstart target limit := CheckLog.readSince_prune (hstart cutoff h) target limit

/-- **What a cleanup comes to**, for any number of days, any store and any present time. -/
theorem cleaned_clean (p : RetentionPolicy) (s : Store) (hnow : now.Representable) :
    Cleaned p now s (p.clean now s).1 (p.clean now s).2 := by
  cases h : p.cutoff? now with
  | none =>
    rw [clean_of_none h]
    exact cleaned_of_none hnow h
  | some cutoff =>
    rw [clean_of_some h]
    exact cleaned_of_some hnow h

/-- Two days after the epoch a day is kept. Of three records, one to the millisecond as old as that,
the two older ones are dropped, though they are about different targets, and the third is still
read. With the greatest number of days, a century, nothing is dropped. -/
theorem cleaned_clean_day :
    let check (name : String) (ms : Int) : CheckResult :=
      ⟨⟨name, "10.0.0.1", 80⟩, true, .poll, .atMillis ms⟩
    let now : Instant := .atMillis 172800000
    let s : Store :=
      (((({} : Store).append (check "web" 5)).append (check "db" 86399999)).append
        (check "web" 86400000))
    let left := ((⟨1⟩ : RetentionPolicy).clean now s).2
    now.Representable ∧ Cleaned ⟨1⟩ now s 2 left ∧ left.log.checks.map StoredCheck.number = [3] ∧
      Cleaned ⟨Text.int64Max⟩ now s 0 s := by
  intro check now s left
  have hnow : now.Representable := by decide +kernel
  exact ⟨hnow, cleaned_clean ⟨1⟩ s hnow, by decide +kernel, cleaned_clean ⟨Text.int64Max⟩ s hnow⟩

end RetentionPolicy

end Uptime
