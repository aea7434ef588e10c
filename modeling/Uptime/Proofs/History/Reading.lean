import Mathlib.Data.List.DropRight
import Uptime.Monitor
import Uptime.Proofs.History
import Uptime.Proofs.Registry.View

/-!
# Reading the check log

What is read from the check log are the last of the surviving results of a target, in the order of
their times, and of equal times in the order in which they were recorded. Each of them is read back as
it was recorded, but for an address with a NUL, which is cut.

## Main definitions

* `Precedes`: the order in which results are read.
* `Found`: the surviving results of a target from a time on, in that order.
* `CheckResult.recorded`, `CheckResult.readBack`: the row of a result as it was recorded, and as it
  is read back.

## Main results

* `Found.eq`: there is one list of these results.
* `Store.exists_found`: what is sorted when the log is read.
* `Store.readSince_run`: what is read from the log.
* `Monitor.logs_run`: what is read about a target that is being watched.
-/

namespace Uptime

/-! ### Results in the order of reading -/

/-- The time of a result, as it counts. -/
def CheckResult.millis (r : CheckResult) : Int := r.checkedAt.toMillis

/-- A result is read before another one: it is from an earlier time, or was recorded earlier in the
same millisecond. -/
def Precedes (a b : Nat × CheckResult) : Prop :=
  a.2.millis < b.2.millis ∨ a.2.millis = b.2.millis ∧ a.1 < b.1

instance (a b : Nat × CheckResult) : Decidable (Precedes a b) :=
  inferInstanceAs (Decidable (_ ∨ _))

theorem Precedes.asymm {a b : Nat × CheckResult} (h : Precedes a b) : ¬ Precedes b a := by
  simp only [Precedes] at h ⊢
  omega

theorem Precedes.of_not {a b : Nat × CheckResult} (h : ¬ Precedes a b) (hne : a.1 ≠ b.1) :
    Precedes b a := by
  simp only [Precedes] at h ⊢
  omega

/-- The order of the log is the order of reading, the last result first. -/
theorem newerFirst_storedCheck {ops : List StoreOp} {a b : Nat × CheckResult}
    (ha : ops[a.1]? = some (.append a.2)) (hb : ops[b.1]? = some (.append b.2)) :
    (storedCheck ops a).newerFirst (storedCheck ops b) = decide (¬ Precedes a b) := by
  have hnumber := storedNumber_le_iff hb ha
  have hnewer : (storedCheck ops a).newerFirst (storedCheck ops b) = true ↔
      b.2.millis < a.2.millis ∨ a.2.millis = b.2.millis ∧ b.1 ≤ a.1 := by
    rw [← hnumber, StoredCheck.newerFirst, Bool.or_eq_true, Bool.and_eq_true, decide_eq_true_eq,
      decide_eq_true_eq, decide_eq_true_eq]
    rfl
  rw [Bool.eq_iff_iff, decide_eq_true_eq, hnewer, Precedes]
  omega

theorem pairwise_mergeSort_precedes (xs : List (Nat × CheckResult)) :
    (xs.mergeSort fun a b => decide (¬ Precedes a b)).Pairwise fun a b => ¬ Precedes a b := by
  have htrans : ∀ a b c : Nat × CheckResult, decide (¬ Precedes a b) = true →
      decide (¬ Precedes b c) = true → decide (¬ Precedes a c) = true := by
    intro a b c hab hbc
    rw [decide_eq_true_eq] at hab hbc ⊢
    simp only [Precedes] at hab hbc ⊢
    omega
  have htotal : ∀ a b : Nat × CheckResult,
      (decide (¬ Precedes a b) || decide (¬ Precedes b a)) = true := by
    intro a b
    rw [Bool.or_eq_true, decide_eq_true_eq, decide_eq_true_eq]
    exact not_and_or.mp fun hboth => hboth.1.asymm hboth.2
  exact (List.pairwise_mergeSort htrans htotal xs).imp of_decide_eq_true

/-- The surviving results of a target from a time on, in the order of reading. -/
structure Found (ops : List StoreOp) (target : String) (cutoff : Instant)
    (found : List (Nat × CheckResult)) : Prop where
  mem_iff : ∀ place r, (place, r) ∈ found ↔
    Survives ops place r ∧ r.identity.name = target ∧ cutoff.toMillis ≤ r.millis
  ordered : found.Pairwise Precedes

section

variable {ops : List StoreOp} {target : String} {cutoff : Instant}
  {found found' : List (Nat × CheckResult)}

/-- No result is found twice. -/
theorem Found.nodup (h : Found ops target cutoff found) : found.Nodup :=
  h.ordered.imp fun hprecedes heq => (heq ▸ hprecedes).asymm (heq ▸ hprecedes)

/-- **There is one list of these results.** -/
theorem Found.eq (h : Found ops target cutoff found) (h' : Found ops target cutoff found') :
    found = found' := by
  have hperm : found.Perm found' := by
    rw [List.perm_ext_iff_of_nodup h.nodup h'.nodup]
    rintro ⟨place, r⟩
    rw [h.mem_iff, h'.mem_iff]
  exact hperm.eq_of_pairwise (fun a b _ _ hab hba => absurd hba hab.asymm) h.ordered h'.ordered

end

/-! ### Rows -/

namespace CheckResult

variable (r : CheckResult)

/-- The row of a result as it was recorded. -/
def recorded : Row where
  checkedAt := .ofMillis r.millis
  status := .ofProbe r.up
  address := r.identity.address
  port := r.identity.port
  reason := r.reason.word

/-- The row that a result is read back as. -/
def readBack : Row := { r.recorded with address := StoredText.read r.identity.address }

theorem row_ofResult (number : Nat) : (StoredCheck.ofResult number r).row = r.readBack := by
  have hstatus : Status.ofWord (StoredText.read (Status.ofProbe r.up).word) = .ofProbe r.up := by
    cases r.up with
    | false => rfl
    | true => rfl
  have hreason : Text.upperAscii (StoredText.read r.reason.word) = r.reason.word := by
    cases r.reason with
    | first => rfl
    | change => rfl
    | poll => rfl
  simp only [StoredCheck.row, StoredCheck.ofResult, hstatus, hreason]
  rfl

/-- A result is read back as it was recorded unless there is a NUL in its address. -/
theorem readBack_eq_recorded_iff : r.readBack = r.recorded ↔ '\x00' ∉ r.identity.address.toList := by
  constructor
  · intro h hnul
    have haddress : StoredText.read r.identity.address = r.identity.address :=
      congrArg Row.address h
    exact StoredText.nul_notMem_read r.identity.address (haddress.symm ▸ hnul)
  · intro h
    rw [readBack, StoredText.read_eq_self h]
    rfl

end CheckResult

/-! ### Reading -/

namespace CheckLog

theorem takeLimit_map {α β : Type} (f : α → β) (limit : Nat) (xs : List α) :
    takeLimit limit (xs.map f) = (takeLimit limit xs).map f := by
  unfold takeLimit
  split
  · exact List.map_take.symm
  · rfl

/-- The last members of a list, as many as a limit allows. -/
def lastUnder {α : Type} (limit : Nat) (xs : List α) : List α :=
  (takeLimit limit xs.reverse).reverse

section

variable {α : Type} {limit : Nat} {xs : List α}

theorem lastUnder_suffix : lastUnder limit xs <:+ xs := by
  rw [lastUnder, ← List.reverse_prefix, List.reverse_reverse, takeLimit]
  split
  · exact List.take_prefix limit xs.reverse
  · exact List.prefix_rfl

theorem lastUnder_of_unlimited_le (h : unlimited ≤ limit) : lastUnder limit xs = xs := by
  rw [lastUnder, takeLimit, if_neg (Nat.not_lt_of_le h), List.reverse_reverse]

/-- There are as many as the limit says, if there are so many at all. -/
theorem length_lastUnder (h : limit < unlimited ∨ xs.length ≤ unlimited) :
    (lastUnder limit xs).length = min limit xs.length := by
  rcases Nat.lt_or_ge limit unlimited with hlimit | hlimit
  · rw [lastUnder, takeLimit, if_pos hlimit, List.length_reverse, List.length_take,
      List.length_reverse]
  · rw [lastUnder_of_unlimited_le hlimit]
    omega

end

end CheckLog

/-- Nothing is sorted if the records have come in the order in which they are asked for. -/
theorem CheckLog.readSince_of_pairwise {log : CheckLog} {target : String} {cutoff : Instant}
    (h : (log.checks.filter fun c => c.target = target ∧ cutoff.toMillis ≤ c.checkedAt).Pairwise
      fun a b => a.newerFirst b = true) (limit : Nat) :
    log.readSince target cutoff limit =
      ((takeLimit limit (log.checks.filter fun c =>
        c.target = target ∧ cutoff.toMillis ≤ c.checkedAt)).map StoredCheck.row).reverse := by
  rw [readSince, List.mergeSort_of_pairwise h]

/-- **What is sorted when the log is read** are the results that are found. -/
theorem Store.exists_found (ops : List StoreOp) (target : String) (cutoff : Instant) :
    ∃ found, Found ops target cutoff found ∧ ∀ limit,
      (run ops).log.readSince target cutoff limit =
        (CheckLog.lastUnder limit found).map fun a => a.2.readBack := by
  obtain ⟨survivors, h⟩ := exists_survivors ops
  let relevant := survivors.filter fun a =>
    a.2.identity.name = target ∧ cutoff.toMillis ≤ a.2.checkedAt.toMillis
  let sorted := relevant.mergeSort fun a b => decide (¬ Precedes a b)
  have hmem : ∀ place r, (place, r) ∈ sorted ↔
      Survives ops place r ∧ r.identity.name = target ∧ cutoff.toMillis ≤ r.millis := by
    intro place r
    rw [List.mem_mergeSort, List.mem_filter, h.mem_iff, decide_eq_true_eq]
    rfl
  have happend : ∀ a ∈ sorted, ops[a.1]? = some (.append a.2) := fun a ha =>
    ((hmem a.1 a.2).mp ha).1.1
  -- no two results have one place
  have hplaces : sorted.Pairwise fun a b => a.1 ≠ b.1 := by
    have hsurvivors : survivors.Pairwise fun a b => a.1 ≠ b.1 := h.ordered.imp Nat.ne_of_lt
    exact ((List.mergeSort_perm relevant _).pairwise_iff fun hne => hne.symm).mpr
      (hsurvivors.filter _)
  have hordered : sorted.Pairwise fun a b => Precedes b a :=
    ((pairwise_mergeSort_precedes relevant).and hplaces).imp fun hab => Precedes.of_not hab.1 hab.2
  refine ⟨sorted.reverse, ⟨fun place r => ?_, ?_⟩, fun limit => ?_⟩
  · rw [List.mem_reverse, hmem]
  · rw [List.pairwise_reverse]
    exact hordered
  · have hfilter : ((run ops).log.checks.filter fun c =>
        c.target = target ∧ cutoff.toMillis ≤ c.checkedAt) = relevant.map (storedCheck ops) := by
      rw [h.checks_eq, List.filter_map]
      rfl
    have hsorted : (relevant.map (storedCheck ops)).mergeSort StoredCheck.newerFirst =
        sorted.map (storedCheck ops) := by
      refine (List.map_mergeSort fun a ha b hb => ?_).symm
      rw [newerFirst_storedCheck (happend a (List.mem_mergeSort.mpr ha))
        (happend b (List.mem_mergeSort.mpr hb))]
    have hrow : StoredCheck.row ∘ storedCheck ops = fun a => a.2.readBack := by
      funext a
      exact a.2.row_ofResult (storedNumber ops a.1)
    rw [CheckLog.readSince, hfilter, hsorted, CheckLog.takeLimit_map, List.map_map, hrow,
      CheckLog.lastUnder, List.reverse_reverse, List.map_reverse]

/-- The rows that answer a question to the check log. -/
structure Latest (ops : List StoreOp) (target : String) (cutoff : Instant) (limit : Nat)
    (found shown : List (Nat × CheckResult)) (rows : List Row) : Prop where
  isFound : Found ops target cutoff found
  /-- There is one list of these results. -/
  found_eq : ∀ found', Found ops target cutoff found' → found' = found
  /-- What is shown are the last results that are found, -/
  suffix : shown <:+ found
  /-- as many as the limit says, if there are so many at all. -/
  length_eq : limit < CheckLog.unlimited ∨ found.length ≤ CheckLog.unlimited →
    shown.length = min limit found.length
  /-- A limit that is not a signed number of 64 bits is none. -/
  eq_found : CheckLog.unlimited ≤ limit → shown = found
  rows_eq : rows = shown.map fun a => a.2.readBack
  /-- The rows are the results as they were recorded exactly if no address has a NUL. -/
  recorded_iff : (rows = shown.map fun a => a.2.recorded) ↔
    ∀ a ∈ shown, '\x00' ∉ a.2.identity.address.toList

/-- **What is read from the log.** -/
theorem Store.exists_latest (ops : List StoreOp) (target : String) (cutoff : Instant)
    (limit : Nat) : ∃ found shown,
      Latest ops target cutoff limit found shown
        ((run ops).log.readSince target cutoff limit) := by
  obtain ⟨found, hfound, hread⟩ := exists_found ops target cutoff
  refine ⟨found, CheckLog.lastUnder limit found, hfound, fun _ h => h.eq hfound,
    CheckLog.lastUnder_suffix,
    CheckLog.length_lastUnder, CheckLog.lastUnder_of_unlimited_le, hread limit, ?_⟩
  rw [hread, List.map_inj_left]
  exact forall₂_congr fun a _ => a.2.readBack_eq_recorded_iff

/-! ### Asking a monitor -/

theorem daysInForce_mem (days : Nat) : 1 ≤ daysInForce days ∧ daysInForce days ≤ 365 := by
  unfold daysInForce
  split <;> omega

theorem limitInForce_mem (ceiling limit : Nat) :
    1 ≤ limitInForce ceiling limit ∧ limitInForce ceiling limit ≤ max ceiling 1 := by
  unfold limitInForce
  split <;> omega

namespace Monitor

variable {m : Monitor} {ceiling days limit : Nat} {now : Instant} {target : String}

/-- A question about a target that is being watched is put to the log under its name, and if that
cannot be read, there are no rows. -/
theorem logs_of_isSome (hindexed : m.registry.Indexed)
    (h : (m.registry.get? target).isSome = true) (readingSucceeds : Bool) :
    m.logs ceiling now target days limit readingSucceeds =
      some (if readingSucceeds then
        m.store.log.readSince target (now - Span.ofDays (daysInForce days))
          (limitInForce ceiling limit)
      else []) := by
  obtain ⟨t, ht⟩ := Option.isSome_iff_exists.mp h
  obtain ⟨-, hname⟩ := (Registry.get?_eq_some_iff hindexed).mp ht
  rw [logs, logQuery?, ht]
  cases readingSucceeds with
  | false => rfl
  | true =>
    rw [← hname]
    rfl

/-- No question about any other target is put to the log. -/
theorem logQuery?_of_none (h : m.registry.get? target = none) :
    m.logQuery? ceiling target days limit = none := by
  rw [logQuery?, h]
  rfl

end Monitor

/-- **What is read from the log** after any history: the last of the surviving results of the target
from the time on, as they were recorded but for addresses with a NUL. A monitor asks so for each target
that is being watched, with days and a limit that are in force, and not at all for any other. -/
theorem Store.latest_run (ops : List StoreOp) (calls : List RegistryCall) :
    (∀ target cutoff limit, ∃ found shown,
      Latest ops target cutoff limit found shown
        ((run ops).log.readSince target cutoff limit)) ∧
    ∀ ceiling now target days limit,
      let m : Monitor := ⟨Registry.after calls, run ops⟩
      ((m.registry.get? target).isSome = true → ∃ d n, 1 ≤ d ∧ d ≤ 365 ∧ 1 ≤ n ∧
        n ≤ max ceiling 1 ∧ d = (if days = 0 then 7 else min days 365) ∧
        n = min (if limit = 0 then 200 else limit) (max ceiling 1) ∧
        m.logs ceiling now target days limit true =
          some ((run ops).log.readSince target (now - Span.ofDays d) n) ∧
        m.logs ceiling now target days limit false = some []) ∧
      (m.registry.get? target = none → m.logQuery? ceiling target days limit = none ∧
        ∀ store readingSucceeds, Monitor.logs ⟨Registry.after calls, store⟩ ceiling now target days
          limit readingSucceeds = none) := by
  refine ⟨exists_latest ops, fun ceiling now target days limit => ?_⟩
  intro m
  have hindexed : m.registry.Indexed := Registry.indexed_after calls
  refine ⟨fun hfound => ?_, fun hnone => ⟨Monitor.logQuery?_of_none hnone, fun store ok => ?_⟩⟩
  · obtain ⟨hone, hyear⟩ := daysInForce_mem days
    obtain ⟨hleast, hceiling⟩ := limitInForce_mem ceiling limit
    exact ⟨daysInForce days, limitInForce ceiling limit, hone, hyear, hleast, hceiling, rfl, rfl,
      Monitor.logs_of_isSome hindexed hfound true, Monitor.logs_of_isSome hindexed hfound false⟩
  · rw [Monitor.logs, Monitor.logQuery?_of_none (m := ⟨Registry.after calls, store⟩) hnone]
    rfl

/-- Two results are recorded in the wrong order and one is dropped. Of the other two the later one is
shown, and its address is cut. The target is asked for by its name; nothing is asked about another one,
although it has a row. -/
theorem Store.latest_run_cut :
    let check (name address : String) (ms : Int) : CheckResult :=
      ⟨⟨name, address, 80⟩, true, .poll, .atMillis ms⟩
    let ops : List StoreOp :=
      [.append (check "web" "h\x00x" 7), .append (check "web" "h" 5), .append (check "web" "h" 2),
        .append (check "db" "h" 7), .prune (.atMillis 5)]
    let calls : List RegistryCall := [.replace [⟨"web", "h", 80, true⟩]]
    let m : Monitor := ⟨Registry.after calls, run ops⟩
    let shown : Row := ⟨.atMillis 7, .up, "h", 80, "POLL"⟩
    (run ops).log.readSince "web" (.atMillis 0) 1 = [shown] ∧
      (∃ found last, Latest ops "web" (.atMillis 0) 1 found last [shown]) ∧
      (m.registry.get? "web").isSome = true ∧
      m.logs 0 (.atMillis 9) "web" 0 0 true = some [shown] ∧
      m.logs 0 (.atMillis 9) "web" 0 0 false = some [] ∧
      m.registry.get? "db" = none ∧ m.logs 0 (.atMillis 9) "db" 0 0 true = none := by
  intro check ops calls m shown
  have hread : (run ops).log.readSince "web" (.atMillis 0) 1 = [shown] :=
    (CheckLog.readSince_of_pairwise (by decide +kernel) 1).trans (by decide +kernel)
  have hweek : (run ops).log.readSince "web" (Instant.atMillis 9 - Span.ofDays 7) 1 = [shown] :=
    (CheckLog.readSince_of_pairwise (by decide +kernel) 1).trans (by decide +kernel)
  have hfound : (m.registry.get? "web").isSome = true := by decide +kernel
  have hnone : m.registry.get? "db" = none := by decide +kernel
  obtain ⟨hlatest, hlogs⟩ := latest_run ops calls
  obtain ⟨hweb, -⟩ := hlogs 0 (.atMillis 9) "web" 0 0
  obtain ⟨-, hdb⟩ := hlogs 0 (.atMillis 9) "db" 0 0
  obtain ⟨d, n, -, -, -, -, rfl, rfl, hshown, hfailed⟩ := hweb hfound
  exact ⟨hread, hread ▸ hlatest "web" (.atMillis 0) 1, hfound, hshown.trans (congrArg some hweek),
    hfailed, hnone, (hdb hnone).2 (run ops) true⟩

end Uptime
