import Mathlib.Data.List.Induction
import Uptime.Proofs.Seeding

/-!
# Histories of the store

What a store holds is what its operations have left there. A recorded result survives as long as no
later cleanup reaches it, whatever happens to the targets. The check log has the records of the
surviving results in the order in which they came, and it numbers them in that order.

## Main definitions

* `StoreOp`, `Store.run`: the operations, and the store that some of them lead to.
* `Survives`: the results that have been recorded and not dropped.
* `storedNumber`: the number under which a result is recorded.

## Main results

* `survives_concat_iff`: what one more operation does to the results.
* `Store.exists_survivors`: what the check log holds.
-/

namespace Uptime

/-- An operation of the store that is carried out. -/
inductive StoreOp
  /-- A result is recorded. -/
  | append (r : CheckResult)
  /-- The records before a time are dropped. -/
  | prune (cutoff : Instant)
  /-- A definition is written. -/
  | upsert (d : Definition)
  /-- A definition is switched off. -/
  | disable (name : String)
  /-- The configured targets are written, perhaps not all of them. -/
  | seed (ds : List Definition) (failsAt : Option Nat)

namespace Store

/-- Carries out an operation. -/
def operate (s : Store) : StoreOp → Store
  | .append r => s.append r
  | .prune cutoff => s.prune cutoff
  | .upsert d => s.upsert d
  | .disable name => s.disable name
  | .seed ds failsAt => (s.seed ds failsAt).2

/-- The store that some operations lead to. -/
def run (ops : List StoreOp) : Store := ops.foldl operate {}

theorem run_concat (ops : List StoreOp) (op : StoreOp) :
    run (ops ++ [op]) = (run ops).operate op := by
  rw [run, List.foldl_append]
  rfl

/-- Seeding does not touch the check log. -/
theorem log_seed (s : Store) (ds : List Definition) (failsAt : Option Nat) :
    (s.seed ds failsAt).2.log = s.log := by
  rcases Nat.eq_zero_or_pos s.catalog.size with hempty | hsize
  · by_cases hds : ds = []
    · simp [seed, hds]
    · rw [seed_of_size_eq_zero hempty hds, log_upsertAll]
  · rw [seed_of_size_pos hsize]

end Store

/-! ### Surviving results -/

/-- A result is recorded at a place of the history, and no later cleanup drops it. -/
def Survives (ops : List StoreOp) (place : Nat) (r : CheckResult) : Prop :=
  ops[place]? = some (.append r) ∧ ∀ later cutoff, place < later →
    ops[later]? = some (.prune cutoff) → cutoff.toMillis ≤ r.checkedAt.toMillis

section

variable {ops : List StoreOp} {op : StoreOp} {place : Nat} {r : CheckResult}

theorem Survives.lt_length (h : Survives ops place r) : place < ops.length :=
  (List.getElem?_eq_some_iff.mp h.1).1

/-- **What one more operation does to the results.** -/
theorem survives_concat_iff : Survives (ops ++ [op]) place r ↔
    (Survives ops place r ∧
        ∀ cutoff, op = .prune cutoff → cutoff.toMillis ≤ r.checkedAt.toMillis) ∨
      place = ops.length ∧ op = .append r := by
  constructor
  · rintro ⟨hplace, hlater⟩
    rcases Nat.lt_or_ge place ops.length with hold | hnew
    · refine .inl ⟨⟨?_, fun later cutoff hlt hprune => hlater later cutoff hlt ?_⟩,
        fun cutoff hop => hlater ops.length cutoff hold ?_⟩
      · rwa [List.getElem?_append_left hold] at hplace
      · rw [List.getElem?_append_left (List.getElem?_eq_some_iff.mp hprune).1, hprune]
      · rw [List.getElem?_concat_length, hop]
    · have hlt := (List.getElem?_eq_some_iff.mp hplace).1
      rw [List.length_append, List.length_singleton] at hlt
      obtain rfl : place = ops.length := by omega
      rw [List.getElem?_concat_length] at hplace
      exact .inr ⟨rfl, Option.some.inj hplace⟩
  · rintro (⟨hold, hop⟩ | ⟨rfl, rfl⟩)
    · refine ⟨?_, fun later cutoff hlt hprune => ?_⟩
      · rw [List.getElem?_append_left hold.lt_length, hold.1]
      · rcases Nat.lt_or_ge later ops.length with hbefore | hlast
        · rw [List.getElem?_append_left hbefore] at hprune
          exact hold.2 later cutoff hlt hprune
        · have hle := (List.getElem?_eq_some_iff.mp hprune).1
          rw [List.length_append, List.length_singleton] at hle
          obtain rfl : later = ops.length := by omega
          rw [List.getElem?_concat_length] at hprune
          exact hop cutoff (Option.some.inj hprune)
    · refine ⟨List.getElem?_concat_length, fun later cutoff hlt hprune => ?_⟩
      have hle := (List.getElem?_eq_some_iff.mp hprune).1
      rw [List.length_append, List.length_singleton] at hle
      omega

end

/-! ### Numbers -/

/-- Whether an operation records a result. -/
def StoreOp.isAppend : StoreOp → Bool
  | append _ => true
  | _ => false

/-- The number of the record that is made at a place of the history: one more than those before. -/
def storedNumber (ops : List StoreOp) (place : Nat) : Nat :=
  (ops.take place).countP StoreOp.isAppend + 1

section

variable {ops : List StoreOp} {op : StoreOp} {i j : Nat} {r r' : CheckResult}

theorem storedNumber_concat (h : i < ops.length) :
    storedNumber (ops ++ [op]) i = storedNumber ops i := by
  rw [storedNumber, List.take_append_of_le_length (Nat.le_of_lt h), storedNumber]

/-- Later records have greater numbers. -/
theorem storedNumber_lt (hi : ops[i]? = some (.append r)) (h : i < j) :
    storedNumber ops i < storedNumber ops j := by
  obtain ⟨hlength, hget⟩ := List.getElem?_eq_some_iff.mp hi
  have hprefix : ops.take (i + 1) <+: ops.take j := List.take_prefix_take_left (by omega)
  have hcount := hprefix.sublist.countP_le (p := StoreOp.isAppend)
  rw [List.take_add_one, hi, List.countP_append] at hcount
  simp only [storedNumber, Option.toList_some, List.countP_singleton, StoreOp.isAppend, if_true]
    at hcount ⊢
  omega

theorem storedNumber_le_iff (hi : ops[i]? = some (.append r)) (hj : ops[j]? = some (.append r')) :
    storedNumber ops i ≤ storedNumber ops j ↔ i ≤ j := by
  constructor
  · intro h
    by_contra hlt
    have := storedNumber_lt hj (Nat.lt_of_not_le hlt)
    omega
  · intro h
    rcases Nat.lt_or_eq_of_le h with hlt | rfl
    · exact Nat.le_of_lt (storedNumber_lt hi hlt)
    · exact Nat.le_refl _

end

/-- The record of a result that was recorded at a place. -/
def storedCheck (ops : List StoreOp) (a : Nat × CheckResult) : StoredCheck :=
  .ofResult (storedNumber ops a.1) a.2

/-- What the check log holds: the records of the surviving results, in the order in which they came. -/
structure LogHolds (ops : List StoreOp) (log : CheckLog) (survivors : List (Nat × CheckResult)) :
    Prop where
  mem_iff : ∀ place r, (place, r) ∈ survivors ↔ Survives ops place r
  ordered : survivors.Pairwise fun a b => a.1 < b.1
  checks_eq : log.checks = survivors.map (storedCheck ops)
  next_eq : log.next = storedNumber ops ops.length

namespace LogHolds

variable {ops : List StoreOp} {log : CheckLog} {survivors : List (Nat × CheckResult)} {op : StoreOp}

theorem lt_length (h : LogHolds ops log survivors) : ∀ a ∈ survivors, a.1 < ops.length :=
  fun a ha => ((h.mem_iff a.1 a.2).mp ha).lt_length

/-- The records so far keep their numbers. -/
theorem storedCheck_concat (h : LogHolds ops log survivors) :
    ∀ a ∈ survivors, storedCheck (ops ++ [op]) a = storedCheck ops a := by
  intro a ha
  rw [storedCheck, storedCheck, storedNumber_concat (h.lt_length a ha)]

theorem storedNumber_concat_length :
    storedNumber (ops ++ [op]) (ops ++ [op]).length =
      storedNumber ops ops.length + if op.isAppend then 1 else 0 := by
  rw [storedNumber, storedNumber, List.take_length, List.take_length, List.countP_append,
    List.countP_singleton]
  omega

/-- A result is recorded. -/
theorem append (h : LogHolds ops log survivors) (r : CheckResult) :
    LogHolds (ops ++ [.append r]) (log.append r) (survivors ++ [(ops.length, r)]) where
  mem_iff place r' := by
    rw [survives_concat_iff, ← h.mem_iff, List.mem_append, List.mem_singleton]
    simp [eq_comm]
  ordered := by
    refine List.pairwise_append.mpr ⟨h.ordered, List.pairwise_singleton _ _, fun a ha b hb => ?_⟩
    rw [List.mem_singleton.mp hb]
    exact h.lt_length a ha
  checks_eq := by
    have hnumber : storedNumber (ops ++ [.append r]) ops.length = log.next := by
      rw [h.next_eq, storedNumber, List.take_left', storedNumber, List.take_length]
      rfl
    rw [CheckLog.checks_append, h.checks_eq, List.map_append,
      List.map_congr_left h.storedCheck_concat, List.map_singleton, storedCheck, hnumber]
  next_eq := by
    rw [storedNumber_concat_length, ← h.next_eq]
    rfl

/-- Records are dropped. -/
theorem prune (h : LogHolds ops log survivors) (cutoff : Instant) :
    LogHolds (ops ++ [.prune cutoff]) (log.prune cutoff)
      (survivors.filter fun a => cutoff.toMillis ≤ a.2.checkedAt.toMillis) where
  mem_iff place r := by
    rw [survives_concat_iff, List.mem_filter, h.mem_iff]
    simp
  ordered := h.ordered.filter _
  checks_eq := by
    have hkept : ((fun c => !CheckLog.isBefore cutoff c) ∘ storedCheck ops) =
        fun a => decide (cutoff.toMillis ≤ a.2.checkedAt.toMillis) := by
      funext a
      change (!decide (a.2.checkedAt.toMillis < cutoff.toMillis)) = _
      rw [← decide_not, decide_eq_decide]
      exact Int.not_lt
    rw [CheckLog.checks_prune, h.checks_eq, List.filter_map, hkept]
    exact (List.map_congr_left fun a ha =>
      h.storedCheck_concat a (List.mem_filter.mp ha).1).symm
  next_eq := by
    rw [storedNumber_concat_length, ← h.next_eq]
    rfl

/-- Something happens that is no business of the log. -/
theorem other (h : LogHolds ops log survivors) (happend : ∀ r, op ≠ .append r)
    (hprune : ∀ cutoff, op ≠ .prune cutoff) : LogHolds (ops ++ [op]) log survivors where
  mem_iff place r := by
    rw [survives_concat_iff, h.mem_iff]
    simp [happend, hprune]
  ordered := h.ordered
  checks_eq := by rw [List.map_congr_left h.storedCheck_concat, h.checks_eq]
  next_eq := by
    have hno : op.isAppend = false := by
      cases op with
      | append r => exact absurd rfl (happend r)
      | _ => rfl
    rw [storedNumber_concat_length, hno, h.next_eq]
    rfl

end LogHolds

/-- **What the check log holds** after any history. -/
theorem Store.exists_survivors (ops : List StoreOp) :
    ∃ survivors, LogHolds ops (run ops).log survivors := by
  induction ops using List.reverseRecOn with
  | nil => exact ⟨[], fun place r => by simp [Survives], .nil, rfl, rfl⟩
  | append_singleton ops op ih =>
    obtain ⟨survivors, h⟩ := ih
    rw [run_concat]
    cases op with
    | append r => exact ⟨_, h.append r⟩
    | prune cutoff => exact ⟨_, h.prune cutoff⟩
    | upsert d => exact ⟨_, h.other (by simp) (by simp)⟩
    | disable name => exact ⟨_, h.other (by simp) (by simp)⟩
    | seed ds failsAt =>
      refine ⟨survivors, ?_⟩
      rw [operate, log_seed]
      exact h.other (by simp) (by simp)

end Uptime
