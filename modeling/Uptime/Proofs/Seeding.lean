import Uptime.History.Store
import Uptime.Proofs.Registry.Listing

/-!
# Seeding

The configured targets are written into a catalog without any entry, one call of the store for
each. An attempt may fail at any of its calls, and what it has written before stays. Since a catalog
with an entry is never seeded, the first attempt that writes anything decides what is ever written:
one that is cut short leaves the rest out for good.

## Main definitions

* `Store.attempts`: the store after some attempts.
* `written`, `firstWritten`: how many definitions an attempt writes, and how many of some attempts
  the first one that writes any.
* `Store.Sown`: what some attempts come to.

## Main results

* `Store.entries_upsertAll`: definitions with new names are written behind all others.
* `Store.seed_of_size_pos`: nothing is written into a catalog with an entry.
* `Store.attempts_eq`: the first attempt that writes anything decides what is written.
* `Store.sown_attempts`: what attempts come to once one has succeeded.
-/

namespace Uptime

/-! ### Writing definitions -/

theorem Catalog.put_of_notMem {d : Definition} {es : List Definition}
    (h : d.name ∉ es.map Definition.name) : Catalog.put d es = es ++ [d] := by
  induction es with
  | nil => rfl
  | cons e es ih =>
    rw [List.map_cons, List.mem_cons, not_or] at h
    rw [put, if_neg (Ne.symm h.1), ih h.2, List.cons_append]

namespace Store

variable {s : Store} {ds : List Definition}

@[simp] theorem upsertAll_nil (s : Store) : s.upsertAll [] = s := rfl

@[simp] theorem upsertAll_cons (s : Store) (d : Definition) (ds : List Definition) :
    s.upsertAll (d :: ds) = (s.upsert d).upsertAll ds := rfl

@[simp] theorem log_upsertAll (s : Store) (ds : List Definition) :
    (s.upsertAll ds).log = s.log := by
  induction ds generalizing s with
  | nil => rfl
  | cons d ds ih => rw [upsertAll_cons, ih, log_upsert]

/-- **Definitions with new names** are written behind all others, in their order, and are switched
on. -/
theorem entries_upsertAll
    (hnames : (s.catalog.entries.map Definition.name ++ ds.map Definition.name).Nodup) :
    (s.upsertAll ds).catalog.entries =
      s.catalog.entries ++ ds.map fun d => { d with enabled := true } := by
  induction ds generalizing s with
  | nil => simp
  | cons d ds ih =>
    have hnew : d.name ∉ s.catalog.entries.map Definition.name := by
      rw [List.map_cons, List.nodup_append] at hnames
      exact fun hmem => hnames.2.2 _ hmem _ List.mem_cons_self rfl
    have hput : (s.upsert d).catalog.entries =
        s.catalog.entries ++ [{ d with enabled := true }] := Catalog.put_of_notMem hnew
    rw [upsertAll_cons, ih (by simpa [hput] using hnames), hput]
    simp

/-- What is written into an empty catalog. -/
theorem entries_upsertAll_of_size_eq_zero (hempty : s.catalog.size = 0)
    (hnames : (ds.map Definition.name).Nodup) :
    (s.upsertAll ds).catalog.entries = ds.map fun d => { d with enabled := true } := by
  have hnil : s.catalog.entries = [] := List.length_eq_zero_iff.mp hempty
  rw [entries_upsertAll (by simpa [hnil] using hnames), hnil, List.nil_append]

theorem size_upsertAll_pos (s : Store) (hds : ds ≠ []) : 0 < (s.upsertAll ds).catalog.size := by
  have hput : ∀ (d : Definition) (es : List Definition), 0 < (Catalog.put d es).length := by
    intro d es
    cases es with
    | nil => exact Nat.one_pos
    | cons e es => rw [Catalog.put]; split <;> exact Nat.succ_pos _
  induction ds generalizing s with
  | nil => exact absurd rfl hds
  | cons d ds ih =>
    rw [upsertAll_cons]
    cases ds with
    | nil => exact hput _ _
    | cons e es => exact ih (s.upsert d) (List.cons_ne_nil e es)

/-! ### One attempt -/

/-- How many of some definitions an attempt writes into an empty catalog. -/
def written (n : Nat) : Option Nat → Nat
  | none => n
  | some 0 => 0
  | some (k + 1) => min k n

/-- **Nothing is written into a catalog with an entry**, switched on or off. -/
theorem seed_of_size_pos (hsize : 0 < s.catalog.size) (ds : List Definition)
    (failsAt : Option Nat) :
    s.seed ds failsAt = (if ds ≠ [] ∧ failsAt = some 0 then none else some 0, s) := by
  unfold seed
  by_cases hds : ds = []
  · simp [hds]
  · rcases failsAt with _ | _ | k <;> simp [hds, hsize]

theorem seed_of_size_eq_zero (hempty : s.catalog.size = 0) (hds : ds ≠ [])
    (failsAt : Option Nat) :
    s.seed ds failsAt =
      (if ∃ k < ds.length + 1, failsAt = some k then none else some ds.length,
        s.upsertAll (ds.take (written ds.length failsAt))) := by
  unfold seed
  rcases failsAt with _ | _ | k
  · simp [hempty, hds, written]
  · simp [hds, written]
  · by_cases hk : k < ds.length
    · simp [hempty, hds, written, hk, hk.le]
    · simp [hempty, hds, written, hk, not_lt.mp hk]

/-! ### Repeated attempts -/

/-- The store after some attempts to write the configured targets, of which each fails at the call
with its number. -/
def attempts (s : Store) (ds : List Definition) (fs : List (Option Nat)) : Store :=
  fs.foldl (fun s failsAt => (s.seed ds failsAt).2) s

@[simp] theorem attempts_cons (s : Store) (ds : List Definition) (f : Option Nat)
    (fs : List (Option Nat)) : s.attempts ds (f :: fs) = (s.seed ds f).2.attempts ds fs := rfl

theorem attempts_append (s : Store) (ds : List Definition) (fs gs : List (Option Nat)) :
    s.attempts ds (fs ++ gs) = (s.attempts ds fs).attempts ds gs := List.foldl_append

theorem attempts_of_size_pos (hsize : 0 < s.catalog.size) (ds : List Definition)
    (fs : List (Option Nat)) : s.attempts ds fs = s := by
  induction fs with
  | nil => rfl
  | cons f fs ih => rw [attempts_cons, seed_of_size_pos hsize, ih]

/-- How many of some definitions are written by the first attempt that writes any. -/
def firstWritten (n : Nat) : List (Option Nat) → Nat
  | [] => 0
  | f :: fs => if written n f = 0 then firstWritten n fs else written n f

theorem firstWritten_append (n : Nat) (fs gs : List (Option Nat)) :
    firstWritten n (fs ++ gs) =
      if firstWritten n fs = 0 then firstWritten n gs else firstWritten n fs := by
  induction fs with
  | nil => rfl
  | cons f fs ih =>
    rw [List.cons_append, firstWritten, firstWritten]
    by_cases hnone : written n f = 0
    · rw [if_pos hnone, if_pos hnone, ih]
    · rw [if_neg hnone, if_neg hnone, if_neg hnone]

/-- **The first attempt that writes anything decides what is written.** -/
theorem attempts_eq (hempty : s.catalog.size = 0) (hds : ds ≠ []) (fs : List (Option Nat)) :
    s.attempts ds fs = s.upsertAll (ds.take (firstWritten ds.length fs)) := by
  induction fs with
  | nil => rfl
  | cons f fs ih =>
    simp only [attempts_cons, seed_of_size_eq_zero hempty hds, firstWritten]
    by_cases hnone : written ds.length f = 0
    · rw [if_pos hnone, hnone, List.take_zero, upsertAll_nil, ih]
    · rw [if_neg hnone]
      refine attempts_of_size_pos (size_upsertAll_pos s fun hnil => ?_) ds fs
      rcases List.take_eq_nil_iff.mp hnil with hwritten | hnil
      · exact hnone hwritten
      · exact hds hnil

theorem written_le (n : Nat) (f : Option Nat) : written n f ≤ n := by
  rcases f with _ | _ | k
  · exact le_rfl
  · exact Nat.zero_le n
  · exact Nat.min_le_right k n

theorem firstWritten_le (n : Nat) (fs : List (Option Nat)) : firstWritten n fs ≤ n := by
  induction fs with
  | nil => exact Nat.zero_le n
  | cons f fs ih =>
    rw [firstWritten]
    split
    · exact ih
    · exact written_le n f

/-- An attempt of which no call fails writes everything. -/
theorem written_eq {n : Nat} {f : Option Nat} (h : ¬ ∃ k < n + 1, f = some k) :
    written n f = n := by
  rcases f with _ | k
  · rfl
  · have hk : n + 1 ≤ k := not_lt.mp fun hk => h ⟨k, hk, rfl⟩
    obtain ⟨k, rfl⟩ := Nat.exists_eq_add_of_le' (Nat.one_le_of_lt hk)
    exact Nat.min_eq_right (Nat.le_of_succ_le_succ hk)

/-- What an attempt that succeeds after others gives, and what is written then. -/
theorem count_of_seed_attempts (hempty : s.catalog.size = 0) (hds : ds ≠ [])
    {fs : List (Option Nat)} {last : Option Nat} {count : Nat}
    (hlast : ((s.attempts ds fs).seed ds last).1 = some count) :
    firstWritten ds.length fs = 0 ∧ count = ds.length ∧
        firstWritten ds.length (fs ++ [last]) = ds.length ∨
      firstWritten ds.length fs ≠ 0 ∧ count = 0 ∧
        firstWritten ds.length (fs ++ [last]) = firstWritten ds.length fs := by
  rw [attempts_eq hempty hds] at hlast
  rw [firstWritten_append]
  by_cases hnone : firstWritten ds.length fs = 0
  · left
    rw [hnone, List.take_zero, upsertAll_nil, seed_of_size_eq_zero hempty hds] at hlast
    by_cases hfails : ∃ k < ds.length + 1, last = some k
    · rw [if_pos hfails] at hlast
      cases hlast
    · rw [if_neg hfails] at hlast
      have hall : written ds.length last = ds.length := written_eq hfails
      have hpos : ds.length ≠ 0 := fun hnil => hds (List.length_eq_zero_iff.mp hnil)
      refine ⟨hnone, (Option.some.inj hlast).symm, ?_⟩
      rw [if_pos hnone, firstWritten, hall, if_neg hpos]
  · right
    have hsize : 0 < (s.upsertAll (ds.take (firstWritten ds.length fs))).catalog.size :=
      size_upsertAll_pos s fun hnil => (List.take_eq_nil_iff.mp hnil).elim hnone hds
    rw [seed_of_size_pos hsize] at hlast
    refine ⟨hnone, ?_, if_neg hnone⟩
    dsimp only at hlast
    split at hlast
    · cases hlast
    · exact (Option.some.inj hlast).symm

/-- Some definitions of different names are all among the first ones only if these are all. -/
theorem forall_mem_take_iff (hnames : (ds.map Definition.name).Nodup) {k : Nat}
    (hk : k ≤ ds.length) :
    (∀ d ∈ ds, { d with enabled := true } ∈
        (ds.take k).map fun d : Definition => { d with enabled := true }) ↔ k = ds.length := by
  constructor
  · intro hall
    have hsubset : ds.map Definition.name ⊆ (ds.take k).map Definition.name := by
      intro name hname
      obtain ⟨d, hd, rfl⟩ := List.mem_map.mp hname
      obtain ⟨e, he, heq⟩ := List.mem_map.mp (hall d hd)
      exact List.mem_map.mpr ⟨e, he, (congrArg Definition.name heq :)⟩
    have hlength := (List.subperm_of_subset hnames hsubset).length_le
    rw [List.length_map, List.length_map, List.length_take_of_le hk] at hlength
    exact le_antisymm hk hlength
  · rintro rfl d hd
    rw [List.take_length]
    exact List.mem_map_of_mem hd

/-- What some attempts to write the configured targets come to, with one after them that gives
a number. -/
structure Sown (s : Store) (ds : List Definition) (fs : List (Option Nat)) (last : Option Nat)
    (count : Nat) : Prop where
  /-- The catalog has what the first attempt that wrote anything wrote, switched on. -/
  entries_eq : (s.attempts ds (fs ++ [last])).catalog.entries =
    (ds.take (firstWritten ds.length (fs ++ [last]))).map fun d => { d with enabled := true }
  /-- The last attempt writes all if nothing was there, and else nothing. -/
  count_eq : count = if firstWritten ds.length fs = 0 then ds.length else 0
  /-- Everything is there exactly if no attempt before has written a part only. -/
  complete_iff : (∀ d ∈ ds, { d with enabled := true } ∈
      (s.attempts ds (fs ++ [last])).catalog.entries) ↔
    firstWritten ds.length fs = 0 ∨ firstWritten ds.length fs = ds.length
  /-- Then everything that is read back as it was stored is listed. -/
  listed : firstWritten ds.length fs = 0 ∨ firstWritten ds.length fs = ds.length →
    ∀ d ∈ ds, d.Legible →
      { d with enabled := true } ∈ (s.attempts ds (fs ++ [last])).catalog.list
  /-- No attempt after it changes anything. -/
  lasting : ∀ later, s.attempts ds (fs ++ last :: later) = s.attempts ds (fs ++ [last])
  /-- The check log is left alone. -/
  log_eq : (s.attempts ds (fs ++ [last])).log = s.log

/-- **Seeding can be repeated until an attempt has written something.** That attempt decides what
the catalog has: everything, unless it was cut short. -/
theorem sown_attempts (hempty : s.catalog.size = 0) (hds : ds ≠ [])
    (hnames : (ds.map Definition.name).Nodup) {fs : List (Option Nat)} {last : Option Nat}
    {count : Nat} (hlast : ((s.attempts ds fs).seed ds last).1 = some count) :
    Sown s ds fs last count := by
  have hcount := count_of_seed_attempts hempty hds hlast
  have hlength : ds.length ≠ 0 := fun hnil => hds (List.length_eq_zero_iff.mp hnil)
  have hentries : (s.attempts ds (fs ++ [last])).catalog.entries =
      (ds.take (firstWritten ds.length (fs ++ [last]))).map
        fun d => { d with enabled := true } := by
    rw [attempts_eq hempty hds, entries_upsertAll_of_size_eq_zero hempty]
    exact hnames.sublist ((List.take_sublist _ _).map _)
  have hcomplete : (∀ d ∈ ds, { d with enabled := true } ∈
      (s.attempts ds (fs ++ [last])).catalog.entries) ↔
      firstWritten ds.length fs = 0 ∨ firstWritten ds.length fs = ds.length := by
    rw [hentries, forall_mem_take_iff hnames (firstWritten_le _ _)]
    rcases hcount with ⟨hnone, -, hall⟩ | ⟨hsome, -, hsame⟩
    · simp [hnone, hall]
    · simp [hsome, hsame]
  refine ⟨hentries, ?_, hcomplete, ?_, ?_, ?_⟩
  · rcases hcount with ⟨hnone, hcount, -⟩ | ⟨hsome, hcount, -⟩
    · rw [hcount, if_pos hnone]
    · rw [hcount, if_neg hsome]
  · intro hwhole d hd hlegible
    exact Catalog.mem_list.mpr
      ⟨_, hcomplete.mpr hwhole d hd, rfl, Catalog.readBack_eq_self hlegible⟩
  · intro later
    rw [List.append_cons, attempts_append s ds (fs ++ [last])]
    refine attempts_of_size_pos ?_ ds later
    rw [attempts_eq hempty hds]
    refine size_upsertAll_pos s fun hnil => ?_
    rcases List.take_eq_nil_iff.mp hnil with hzero | hnil
    · rcases hcount with ⟨-, -, hall⟩ | ⟨hsome, -, hsame⟩
      · exact hlength (hall.symm.trans hzero)
      · exact hsome (hsame.symm.trans hzero)
    · exact hds hnil
  · rw [attempts_eq hempty hds, log_upsertAll]

/-- Two targets. The first attempt fails at its first call, the second at its last one, so that one
target is written, and the third attempt finds it there. If the second attempt fails at its second
call as well, nothing is written before the third one, which writes both. -/
theorem sown_attempts_three :
    let web : Definition := ⟨"web", "10.0.0.1", 80, true⟩
    let db : Definition := ⟨"db", "10.0.0.2", 5432, true⟩
    Sown {} [web, db] [some 0, some 2] none 0 ∧
      (attempts {} [web, db] [some 0, some 2, none]).catalog.list = [web] ∧
      Sown {} [web, db] [some 0, some 1] none 2 ∧
      (attempts {} [web, db] [some 0, some 1, none]).catalog.list = [db, web] :=
  ⟨sown_attempts rfl (by decide) (by decide) rfl, by decide +kernel,
    sown_attempts rfl (by decide) (by decide) rfl, by decide +kernel⟩

/-- **Seeding cannot be repeated after an attempt that was cut short**: the next attempt succeeds,
and the second of two targets is still not there. -/
theorem not_listed_of_cut_short :
    ¬ ∀ (s : Store) (ds : List Definition) (fs : List (Option Nat)) (last : Option Nat)
      (count : Nat), s.catalog.size = 0 → ds ≠ [] → (ds.map Definition.name).Nodup →
      ((s.attempts ds fs).seed ds last).1 = some count →
      ∀ d ∈ ds,
        d.identity ∈ (s.attempts ds (fs ++ [last])).catalog.list.map Definition.identity := by
  intro h
  have hlisted := h {} [⟨"web", "10.0.0.1", 80, true⟩, ⟨"db", "10.0.0.2", 5432, true⟩] [some 2]
    none 0 rfl (by decide) (by decide) rfl ⟨"db", "10.0.0.2", 5432, true⟩ (by decide)
  revert hlisted
  decide +kernel

end Store

end Uptime
