/-!
# Finite maps by name

Small finite maps from names to values, as association lists. A look-up sees the first entry
of a name; `insert` and `erase` leave no older entry behind.

## Main definitions

* `NameMap`: the type.
* `NameMap.find?`, `NameMap.insert`, `NameMap.erase`: the operations.
* `NameMap.names`: the names with an entry.
-/

namespace Uptime

/-- A finite map from names to values of `α`. -/
abbrev NameMap (α : Type) := List (String × α)

namespace NameMap

variable {α : Type}

/-- The value of a name. -/
def find? (m : NameMap α) (name : String) : Option α := m.lookup name

/-- The map without a name. -/
def erase (m : NameMap α) (name : String) : NameMap α := m.filter fun entry => entry.1 ≠ name

/-- The map with a value for a name, in place of the one it had. -/
def insert (m : NameMap α) (name : String) (value : α) : NameMap α :=
  (name, value) :: erase m name

/-- The names that have a value. -/
def names (m : NameMap α) : List String := m.map Prod.fst

/-- Whether a name has a value. -/
def contains (m : NameMap α) (name : String) : Bool := (find? m name).isSome

@[simp] theorem find?_nil (name : String) : find? ([] : NameMap α) name = none := rfl

theorem find?_cons (entry : String × α) (m : NameMap α) (name : String) :
    find? (entry :: m) name = if name = entry.1 then some entry.2 else find? m name := by
  obtain ⟨key, value⟩ := entry
  change (match name == key with | true => some value | false => m.lookup name) = _
  by_cases h : name = key
  · simp [h]
  · have : (name == key) = false := by simpa using h
    simp [find?, h, this]

/-- A look-up after an erasure misses the erased name and nothing else. -/
theorem find?_erase (m : NameMap α) (key name : String) :
    find? (erase m key) name = if name = key then none else find? m name := by
  induction m with
  | nil => simp [erase]
  | cons entry m ih =>
    by_cases hkey : entry.1 = key
    · have : erase (entry :: m) key = erase m key := by simp [erase, hkey]
      rw [this, ih, find?_cons]
      by_cases hname : name = key <;> simp [hname, hkey]
    · have : erase (entry :: m) key = entry :: erase m key := by simp [erase, hkey]
      rw [this, find?_cons, find?_cons, ih]
      by_cases hname : name = entry.1
      · subst hname
        simp [hkey]
      · simp [hname]

/-- A look-up after an insertion. -/
theorem find?_insert (m : NameMap α) (key name : String) (value : α) :
    find? (insert m key value) name = if name = key then some value else find? m name := by
  rw [insert, find?_cons, find?_erase]
  by_cases h : name = key <;> simp [h]

end NameMap

end Uptime
