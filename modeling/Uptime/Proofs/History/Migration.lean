import Mathlib.Data.List.Induction
import Mathlib.Order.Lattice
import Uptime.History.Schema

/-!
# Attempts to migrate

A migration is no transaction. It can be cut short before each of its statements, and what it has
done until then stays. It can be repeated all the same: a statement that finds its part of the
schema there does nothing, and the version is recorded after all parts have been made. So what some
attempts leave is what the one of them leaves that has come farthest.

A version has 32 bits. A database is left alone if the greatest that it has recorded is one, and not
below the present one; of a greater number only these bits are read.

## Main definitions

* `Database.migrations`: a database after some attempts.
* `Database.Has`: the part of the schema that a statement makes is there.
* `Database.Keeps`: no row of a database is lost or changed.
* `Database.begun`, `Database.furthest`: a database after the first statements of a migration, and
  how many of them some attempts have carried out.
* `Database.Restartable`: what attempts to migrate a fresh database come to.

## Main results

* `Database.version_eq`: a version is read as it was recorded.
* `Database.keeps_migrate`: no attempt loses a row.
* `Database.migrate_of_le`: a database of the present version or a later one is left alone.
* `Database.migrations_eq`: the attempt that has come farthest decides what is there.
* `Database.restartable_migrations`: attempts can be repeated.
-/

namespace Uptime.Database

variable {db db' : Database} {s : Statement} {ss : List Statement} {f : Option Nat} {j k : Nat}
  {v : Int}

/-- A database after some attempts to migrate it, each of which fails at the statement with its
number. -/
def migrations (db : Database) (fs : List (Option Nat)) : Database :=
  fs.foldl (fun db f => (db.migrate f).2) db

theorem migrations_concat (db : Database) (fs : List (Option Nat)) (f : Option Nat) :
    db.migrations (fs ++ [f]) = ((db.migrations fs).migrate f).2 := by
  rw [migrations, List.foldl_append]
  rfl

/-! ### What a statement does -/

/-- No row is lost or changed, and no part of the schema. -/
structure Keeps (db db' : Database) : Prop where
  versions : ∀ vs, db.versions = some vs → ∃ more, db'.versions = some (vs ++ more)
  log : ∀ log, db.log = some log → db'.log = some log
  indexed : db.indexed = true → db'.indexed = true
  catalog : ∀ catalog, db.catalog = some catalog → db'.catalog = some catalog

theorem Keeps.refl (db : Database) : Keeps db db :=
  ⟨fun vs h => ⟨[], by rw [h, List.append_nil]⟩, fun _ h => h, fun h => h, fun _ h => h⟩

theorem Keeps.trans {db'' : Database} (h : Keeps db db') (h' : Keeps db' db'') :
    Keeps db db'' where
  versions vs hvs := by
    obtain ⟨more, hmore⟩ := h.versions vs hvs
    obtain ⟨rest, hrest⟩ := h'.versions _ hmore
    exact ⟨more ++ rest, by rw [hrest, List.append_assoc]⟩
  log log hlog := h'.log log (h.log log hlog)
  indexed hindexed := h'.indexed (h.indexed hindexed)
  catalog catalog hcatalog := h'.catalog catalog (h.catalog catalog hcatalog)

theorem keeps_execute (db : Database) (s : Statement) : Keeps db (db.execute s) := by
  have hrefl := Keeps.refl db
  cases s with
  | createVersions =>
    exact { hrefl with versions := fun vs h => ⟨[], by simp [execute, h]⟩ }
  | readVersion => exact hrefl
  | createLog => exact { hrefl with log := fun log h => by simp [execute, h] }
  | createIndex => exact { hrefl with indexed := fun _ => rfl }
  | createCatalog => exact { hrefl with catalog := fun catalog h => by simp [execute, h] }
  | recordVersion v =>
    exact { hrefl with versions := fun vs h => ⟨[v], by simp [execute, h]⟩ }

theorem keeps_foldl (db : Database) (ss : List Statement) : Keeps db (ss.foldl execute db) := by
  induction ss generalizing db with
  | nil => exact Keeps.refl db
  | cons s ss ih => exact (db.keeps_execute s).trans (ih _)

/-- The part of the schema that a statement makes is there. -/
def Has (db : Database) : Statement → Prop
  | .createVersions => db.versions.isSome = true
  | .readVersion => True
  | .createLog => db.log.isSome = true
  | .createIndex => db.indexed = true
  | .createCatalog => db.catalog.isSome = true
  | .recordVersion v => v ∈ db.versions.getD []

theorem Keeps.has (h : Keeps db db') (hs : db.Has s) : db'.Has s := by
  cases s with
  | createVersions =>
    obtain ⟨vs, hvs⟩ := Option.isSome_iff_exists.mp hs
    obtain ⟨more, hmore⟩ := h.versions vs hvs
    exact Option.isSome_iff_exists.mpr ⟨_, hmore⟩
  | readVersion => trivial
  | createLog =>
    obtain ⟨log, hlog⟩ := Option.isSome_iff_exists.mp hs
    exact Option.isSome_iff_exists.mpr ⟨log, h.log log hlog⟩
  | createIndex => exact h.indexed hs
  | createCatalog =>
    obtain ⟨catalog, hcatalog⟩ := Option.isSome_iff_exists.mp hs
    exact Option.isSome_iff_exists.mpr ⟨catalog, h.catalog catalog hcatalog⟩
  | recordVersion v =>
    cases hvs : db.versions with
    | none => simp [Has, hvs] at hs
    | some vs =>
      obtain ⟨more, hmore⟩ := h.versions vs hvs
      simp only [Has, hvs, hmore, Option.getD_some] at hs ⊢
      exact List.mem_append_left more hs

/-- The statements that make the parts of the schema, or read. All of them come before the version
is recorded. -/
def creations : List Statement :=
  [.createVersions, .readVersion, .createLog, .createIndex, .createCatalog]

/-- The statements that lead to the present version. -/
def stages : List Statement := creations ++ [.recordVersion schemaVersion]

/-- What a statement makes is there behind it. -/
theorem has_execute (hs : s ∈ creations) : (db.execute s).Has s := by
  simp only [creations, List.mem_cons, List.not_mem_nil, or_false] at hs
  rcases hs with rfl | rfl | rfl | rfl | rfl <;> simp [Has, execute]

/-- A statement that finds its part there does nothing. -/
theorem execute_of_has (hs : s ∈ creations) (h : db.Has s) : db.execute s = db := by
  simp only [creations, List.mem_cons, List.not_mem_nil, or_false] at hs
  obtain ⟨versions, log, indexed, catalog⟩ := db
  rcases hs with rfl | rfl | rfl | rfl | rfl
  · obtain ⟨vs, rfl⟩ := Option.isSome_iff_exists.mp h
    rfl
  · rfl
  · obtain ⟨log, rfl⟩ := Option.isSome_iff_exists.mp h
    rfl
  · obtain rfl : indexed = true := h
    rfl
  · obtain ⟨catalog, rfl⟩ := Option.isSome_iff_exists.mp h
    rfl

/-- Nothing is recorded while the parts are made. -/
theorem versions_execute (hs : s ∈ creations) :
    (db.execute s).versions.getD [] = db.versions.getD [] := by
  simp only [creations, List.mem_cons, List.not_mem_nil, or_false] at hs
  rcases hs with rfl | rfl | rfl | rfl | rfl <;> rfl

theorem has_foldl (hss : ∀ s ∈ ss, s ∈ creations) (hs : s ∈ ss) : (ss.foldl execute db).Has s := by
  induction ss generalizing db with
  | nil => cases hs
  | cons t ss ih =>
    obtain ⟨ht, hrest⟩ := List.forall_mem_cons.mp hss
    rcases List.mem_cons.mp hs with rfl | hs
    · exact (keeps_foldl _ ss).has (has_execute ht)
    · exact ih hrest hs

theorem foldl_of_has (hss : ∀ s ∈ ss, s ∈ creations) (h : ∀ s ∈ ss, db.Has s) :
    ss.foldl execute db = db := by
  induction ss with
  | nil => rfl
  | cons s ss ih =>
    obtain ⟨hs, hrest⟩ := List.forall_mem_cons.mp hss
    obtain ⟨hhas, hothers⟩ := List.forall_mem_cons.mp h
    rw [List.foldl_cons, execute_of_has hs hhas, ih hrest hothers]

theorem versions_foldl (hss : ∀ s ∈ ss, s ∈ creations) :
    (ss.foldl execute db).versions.getD [] = db.versions.getD [] := by
  induction ss generalizing db with
  | nil => rfl
  | cons s ss ih =>
    obtain ⟨hs, hrest⟩ := List.forall_mem_cons.mp hss
    rw [List.foldl_cons, ih hrest, versions_execute hs]

theorem admits_of_mem_creations (hs : s ∈ creations) : db.Admits s := by
  simp only [creations, List.mem_cons, List.not_mem_nil, or_false] at hs
  rcases hs with rfl | rfl | rfl | rfl | rfl <;> trivial

/-! ### Versions -/

/-- **A version is read as it was recorded** if it has 32 bits. -/
theorem version_eq (hgreatest : db.greatest? = some v) (hlow : -2147483648 ≤ v)
    (hhigh : v ≤ 2147483647) : db.version = v := by
  rw [version, hgreatest]
  exact Int.bmod_eq_of_le_mul_two (by simp only [Option.getD_some]; omega)
    (by simp only [Option.getD_some]; omega)

/-- Of a greater number only the lowest bits are read, so that such a database passes for one
without a version. -/
example : ({ versions := some [1, 4294967296] } : Database).version = 0 := by decide

/-! ### What an attempt does -/

theorem plan_of_le (h : schemaVersion ≤ db.version) : db.plan = preamble := if_pos h

theorem plan_of_lt (h : db.version < schemaVersion) : db.plan = stages := if_neg (Int.not_le.mpr h)

/-- **What an attempt does**: it carries out the first of its statements, and succeeds if these are
all. -/
theorem exists_carryOut_eq (db : Database) (ss : List Statement) (f : Option Nat) :
    ∃ k ≤ ss.length, db.carryOut ss f = (decide (k = ss.length), (ss.take k).foldl execute db) := by
  induction ss generalizing db f with
  | nil => exact ⟨0, le_rfl, rfl⟩
  | cons s ss ih =>
    rw [carryOut]
    split
    · exact ⟨0, Nat.zero_le _, rfl⟩
    · obtain ⟨k, hk, heq⟩ := ih (db.execute s) (f.map (· - 1))
      exact ⟨k + 1, Nat.succ_le_succ hk, by simp [heq]⟩

/-- How many of some statements an attempt carries out that fails at one of them. -/
def carried (n : Nat) : Option Nat → Nat
  | none => n
  | some k => min k n

theorem carried_le (n : Nat) (f : Option Nat) : carried n f ≤ n := by
  cases f with
  | none => exact Nat.le_refl n
  | some k => exact Nat.min_le_right k n

/-- Each of some statements can be carried out when its turn comes. -/
def AdmitsAll (db : Database) : List Statement → Prop
  | [] => True
  | s :: ss => db.Admits s ∧ (db.execute s).AdmitsAll ss

/-- An attempt that nothing else stops carries out its statements up to the one at which it
fails. -/
theorem carryOut_eq (h : db.AdmitsAll ss) (f : Option Nat) :
    db.carryOut ss f = (decide (carried ss.length f = ss.length),
      (ss.take (carried ss.length f)).foldl execute db) := by
  induction ss generalizing db f with
  | nil => cases f <;> simp [carryOut, carried]
  | cons s ss ih =>
    obtain ⟨hs, hss⟩ := h
    rw [carryOut]
    match f with
    | some 0 => simp [carried]
    | none =>
      rw [if_neg (by simp [hs]), ih hss]
      simp [carried]
    | some (k + 1) =>
      rw [if_neg (by simp [hs]), ih hss]
      simp [carried, Nat.succ_min_succ]

theorem admitsAll_creations (hss : ∀ s ∈ ss, s ∈ creations) : db.AdmitsAll ss := by
  induction ss generalizing db with
  | nil => trivial
  | cons s ss ih =>
    obtain ⟨hs, hrest⟩ := List.forall_mem_cons.mp hss
    exact ⟨admits_of_mem_creations hs, ih hrest⟩

/-- A version can be recorded behind statements that record none, if it has not been before. -/
theorem admitsAll_append_recordVersion (hss : ∀ s ∈ ss, s ∈ creations)
    (hv : v ∉ db.versions.getD []) : db.AdmitsAll (ss ++ [.recordVersion v]) := by
  induction ss generalizing db with
  | nil => exact ⟨hv, trivial⟩
  | cons s ss ih =>
    obtain ⟨hs, hrest⟩ := List.forall_mem_cons.mp hss
    exact ⟨admits_of_mem_creations hs, ih hrest (by rwa [versions_execute hs])⟩

/-- **No attempt loses a row.** -/
theorem keeps_migrate (db : Database) (f : Option Nat) : Keeps db (db.migrate f).2 := by
  obtain ⟨k, -, heq⟩ := db.exists_carryOut_eq db.plan f
  rw [migrate, heq]
  exact db.keeps_foldl _

theorem preamble_subset : preamble ⊆ creations := by decide

/-- Whatever is carried out before the last statement makes parts of the schema, or reads. -/
theorem mem_creations_of_mem_take (hk : k < db.plan.length) :
    ∀ s ∈ db.plan.take k, s ∈ creations := by
  intro s hs
  rcases Int.lt_or_le db.version schemaVersion with hlt | hle
  · rw [plan_of_lt hlt] at hk hs
    have hbefore : k ≤ creations.length := Nat.lt_succ_iff.mp hk
    rw [stages, List.take_append_of_le_length hbefore] at hs
    exact List.mem_of_mem_take hs
  · rw [plan_of_le hle] at hs
    exact preamble_subset (List.mem_of_mem_take hs)

/-- An attempt that fails records nothing. -/
theorem versions_of_failed (h : (db.migrate f).1 = false) :
    (db.migrate f).2.versions.getD [] = db.versions.getD [] := by
  obtain ⟨k, hk, heq⟩ := db.exists_carryOut_eq db.plan f
  rw [migrate, heq] at h ⊢
  exact versions_foldl (mem_creations_of_mem_take (lt_of_le_of_ne hk (of_decide_eq_false h)))

/-- A database with a recorded version has a table of versions. -/
theorem has_createVersions_of_le (h : schemaVersion ≤ db.version) : db.Has .createVersions := by
  cases hvs : db.versions with
  | none =>
    rw [version, greatest?, hvs] at h
    cases h
  | some vs => simp [Has, hvs]

/-- **A database of the present version or a later one is left alone.** -/
theorem migrate_of_le (h : schemaVersion ≤ db.version) (f : Option Nat) :
    (db.migrate f).2 = db := by
  have hhas : ∀ s ∈ preamble, db.Has s := by
    intro s hs
    simp only [preamble, List.mem_cons, List.not_mem_nil, or_false] at hs
    rcases hs with rfl | rfl
    · exact has_createVersions_of_le h
    · trivial
  obtain ⟨k, -, heq⟩ := db.exists_carryOut_eq db.plan f
  rw [migrate, heq, plan_of_le h]
  exact foldl_of_has (fun s hs => preamble_subset (List.mem_of_mem_take hs))
    fun s hs => hhas s (List.mem_of_mem_take hs)

/-- An attempt at such a database succeeds if it is not cut short. -/
theorem succeeded_of_le (h : schemaVersion ≤ db.version) : (db.migrate none).1 = true := by
  rw [migrate, plan_of_le h, carryOut_eq (admitsAll_creations preamble_subset)]
  rfl

theorem migrations_of_le (h : schemaVersion ≤ db.version) (fs : List (Option Nat)) :
    db.migrations fs = db := by
  induction fs using List.reverseRecOn with
  | nil => rfl
  | append_singleton fs f ih => rw [migrations_concat, ih, migrate_of_le h]

/-! ### What some attempts do -/

/-- A database after the first of the statements that lead to the present version. -/
def begun (db : Database) (k : Nat) : Database := (stages.take k).foldl execute db

/-- How many of these statements the attempt has carried out that has come farthest. -/
def furthest (fs : List (Option Nat)) : Nat :=
  fs.foldl (fun n f => max n (carried stages.length f)) 0

theorem furthest_concat (fs : List (Option Nat)) (f : Option Nat) :
    furthest (fs ++ [f]) = max (furthest fs) (carried stages.length f) := by
  rw [furthest, List.foldl_append]
  rfl

theorem furthest_le (fs : List (Option Nat)) : furthest fs ≤ stages.length := by
  induction fs using List.reverseRecOn with
  | nil => exact Nat.zero_le _
  | append_singleton fs f ih =>
    rw [furthest_concat]
    exact Nat.max_le.mpr ⟨ih, carried_le _ f⟩

/-- Until the version is recorded, only parts of the schema are made. -/
theorem begun_of_lt (h : k < stages.length) : db.begun k = (creations.take k).foldl execute db := by
  have hbefore : k ≤ creations.length := Nat.lt_succ_iff.mp h
  rw [begun, stages, List.take_append_of_le_length hbefore]

theorem versions_begun (h : k < stages.length) :
    (db.begun k).versions.getD [] = db.versions.getD [] := by
  rw [begun_of_lt h]
  exact versions_foldl fun s hs => List.mem_of_mem_take hs

theorem has_begun (h : k < stages.length) (hs : s ∈ creations.take k) : (db.begun k).Has s := by
  rw [begun_of_lt h]
  exact has_foldl (fun s hs => List.mem_of_mem_take hs) hs

/-- **What was begun can be begun again**: all that was done before is left as it is. -/
theorem begun_begun (hj : j < stages.length) (k : Nat) :
    (db.begun j).begun k = db.begun (max j k) := by
  have hagain : ∀ i ≤ j, (db.begun j).begun i = db.begun j := by
    intro i hi
    rw [begun_of_lt (Nat.lt_of_le_of_lt hi hj)]
    refine foldl_of_has (fun s hs => List.mem_of_mem_take hs) fun s hs => has_begun hj ?_
    exact (List.take_prefix_take_left hi).subset hs
  rcases Nat.le_total k j with hk | hk
  · rw [hagain k hk, Nat.max_eq_left hk]
  · have hsplit : ∀ db : Database,
        db.begun k = ((stages.take k).drop j).foldl execute (db.begun j) := by
      intro db
      rw [begun, begun, ← List.foldl_append, ← Nat.min_eq_left hk, ← List.take_take,
        Nat.min_eq_left hk, List.take_append_drop]
    rw [hsplit, hagain j (Nat.le_refl j), ← hsplit, Nat.max_eq_right hk]

/-- **The present version is recorded by the last statement.** -/
theorem versions_begun_length (h : db.versions.getD [] = []) :
    (db.begun stages.length).versions = some [schemaVersion] := by
  have hversions : (creations.foldl execute db).Has .createVersions :=
    has_foldl (fun _ hs => hs) List.mem_cons_self
  obtain ⟨vs, hvs⟩ := Option.isSome_iff_exists.mp hversions
  have hnone : vs = [] := by
    have hkept : (creations.foldl execute db).versions.getD [] = db.versions.getD [] :=
      versions_foldl fun _ hs => hs
    rwa [hvs, h] at hkept
  rw [begun, List.take_length, stages, List.foldl_append]
  simp [execute, hvs, hnone]

theorem version_eq_zero (h : db.versions.getD [] = []) : db.version = 0 := by
  rw [version, greatest?, h]
  rfl

theorem migrate_of_unversioned (h : db.versions.getD [] = []) (f : Option Nat) :
    db.migrate f =
      (decide (carried stages.length f = stages.length), db.begun (carried stages.length f)) := by
  have hadmits : db.AdmitsAll stages :=
    admitsAll_append_recordVersion (fun _ hs => hs) (by rw [h]; exact List.not_mem_nil)
  rw [migrate, plan_of_lt (by rw [version_eq_zero h]; decide), carryOut_eq hadmits, begun]

/-- A database for which all statements have been carried out is of the present version. -/
theorem le_version_begun_length (h : db.versions.getD [] = []) :
    schemaVersion ≤ (db.begun stages.length).version := by
  rw [version, greatest?, versions_begun_length h]
  decide

/-- **The attempt that has come farthest decides what is there**, if no version is recorded at
first. -/
theorem migrations_eq (h : db.versions.getD [] = []) (fs : List (Option Nat)) :
    db.migrations fs = db.begun (furthest fs) := by
  induction fs using List.reverseRecOn with
  | nil => rfl
  | append_singleton fs f ih =>
    rw [migrations_concat, ih, furthest_concat]
    rcases Nat.lt_or_eq_of_le (furthest_le fs) with hlt | heq
    · rw [migrate_of_unversioned (by rw [versions_begun hlt, h]), begun_begun hlt]
    · rw [heq, migrate_of_le (le_version_begun_length h), Nat.max_eq_left (carried_le _ f)]

/-! ### A fresh database -/

/-- What attempts to migrate a fresh database come to. -/
structure Restartable (fs : List (Option Nat)) : Prop where
  /-- The attempt that has come farthest decides what is there. -/
  migrations_eq : migrations {} fs = begun {} (furthest fs)
  /-- The version is recorded only when both tables and the index are there. -/
  recorded : (migrations {} fs).Has (.recordVersion schemaVersion) →
    ∀ s ∈ creations, (migrations {} fs).Has s
  /-- An attempt without a failure succeeds. -/
  succeeds : ((migrations {} fs).migrate none).1 = true
  /-- An attempt that succeeds leaves both tables, the index and one version, -/
  completed : ∀ last, ((migrations {} fs).migrate last).1 = true →
    migrations {} (fs ++ [last]) = ⟨some [schemaVersion], some {}, true, some {}⟩
  /-- and no later one changes anything, whatever the tables hold by then. -/
  lasting : ∀ last, ((migrations {} fs).migrate last).1 = true → ∀ store later,
    ((migrations {} (fs ++ [last])).withStore store).migrations later =
      (migrations {} (fs ++ [last])).withStore store

/-- An attempt to migrate a fresh database succeeds if it carries out all statements, or if one
before it has done so. -/
theorem completed_of_succeeded (fs : List (Option Nat)) {last : Option Nat}
    (h : ((migrations {} fs).migrate last).1 = true) :
    migrations {} (fs ++ [last]) = begun {} stages.length := by
  rw [Database.migrations_eq rfl, furthest_concat]
  rcases Nat.lt_or_eq_of_le (furthest_le fs) with hlt | heq
  · rw [Database.migrations_eq rfl, migrate_of_unversioned (versions_begun hlt),
      decide_eq_true_eq] at h
    rw [h, Nat.max_eq_right (furthest_le fs)]
  · rw [heq, Nat.max_eq_left (carried_le _ last)]

theorem restartable (fs : List (Option Nat)) : Restartable fs := by
  have hreached : migrations {} fs = begun {} (furthest fs) := Database.migrations_eq rfl fs
  refine ⟨hreached, fun hrecorded s hs => ?_, ?_, fun last h => completed_of_succeeded fs h,
    fun last h store later => ?_⟩
  · rw [hreached] at hrecorded ⊢
    rcases Nat.lt_or_eq_of_le (furthest_le fs) with hlt | heq
    · rw [Has, versions_begun hlt] at hrecorded
      cases hrecorded
    · rw [heq, begun, List.take_length, stages, List.foldl_append]
      exact (keeps_foldl _ _).has (has_foldl (fun _ h => h) hs)
  · rw [hreached]
    rcases Nat.lt_or_eq_of_le (furthest_le fs) with hlt | heq
    · rw [migrate_of_unversioned (versions_begun hlt)]
      rfl
    · rw [heq]
      exact succeeded_of_le (le_version_begun_length rfl)
  · have hversion : schemaVersion ≤ ((begun {} stages.length).withStore store).version :=
      le_version_begun_length rfl
    rw [completed_of_succeeded fs h]
    exact migrations_of_le hversion later

/-- **Attempts to migrate can be repeated.** Of a fresh database they make the same in the end,
wherever they were cut short; of any other one, none that fails loses a row or records anything. If
the greatest version that is recorded is the present one or that of a later program, none does
anything at all, and it succeeds if it is not cut short. -/
theorem restartable_migrations (fs : List (Option Nat)) (db : Database) :
    Restartable fs ∧
      (∀ f, (db.migrate f).1 = false → Keeps db (db.migrate f).2 ∧
        (db.migrate f).2.versions.getD [] = db.versions.getD []) ∧
      ∀ v, db.greatest? = some v → schemaVersion ≤ v → v ≤ 2147483647 →
        db.migrations fs = db ∧ (db.migrate none).1 = true := by
  refine ⟨restartable fs, fun f h => ⟨db.keeps_migrate f, versions_of_failed h⟩,
    fun v hgreatest hle hhigh => ?_⟩
  have hlow : -2147483648 ≤ v := by
    have : schemaVersion = 1 := rfl
    omega
  have hversion : schemaVersion ≤ db.version := by rwa [version_eq hgreatest hlow hhigh]
  exact ⟨migrations_of_le hversion fs, succeeded_of_le hversion⟩

/-- The first attempt fails when the check log has been made, the second before it does anything,
and the third when only the version is missing, which the fourth one records. A database of the
version 2 is left as it is, though it has no catalog; and one with a greater number than a version
can be keeps what it has, when the present version cannot be recorded again. -/
theorem restartable_migrations_four :
    let fs : List (Option Nat) := [some 3, some 0, some 5]
    let newer : Database := ⟨some [1, 2], some {}, false, none⟩
    let beyond : Database := ⟨some [1, 4294967296], some {}, false, none⟩
    Restartable fs ∧ migrations {} [some 3, some 0] = ⟨some [], some {}, false, none⟩ ∧
      migrations {} fs = ⟨some [], some {}, true, some {}⟩ ∧
      migrations {} (fs ++ [none]) = ⟨some [1], some {}, true, some {}⟩ ∧
      newer.greatest? = some 2 ∧ newer.migrations fs = newer ∧
      (beyond.migrate none).1 = false ∧ Keeps beyond (beyond.migrate none).2 ∧
      (beyond.migrate none).2.versions = some [1, 4294967296] := by
  intro fs newer beyond
  obtain ⟨hfresh, -, hnewer⟩ := restartable_migrations fs newer
  obtain ⟨-, hfailed, -⟩ := restartable_migrations fs beyond
  have hgreatest : newer.greatest? = some 2 := by decide
  have hrefused : (beyond.migrate none).1 = false := by decide
  exact ⟨hfresh, by decide, by decide, hfresh.completed none hfresh.succeeds, hgreatest,
    (hnewer 2 hgreatest (by decide) (by decide)).1, hrefused, (hfailed none hrefused).1, by decide⟩

end Uptime.Database
