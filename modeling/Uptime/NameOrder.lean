/-!
# Order by name

Lists are put in order by a name of their members. Names compare by code point, which is also
the order of their UTF-8 bytes. Members of one name keep the order they had.

## Main definitions

* `insertByName`: insertion into an ordered list, before the members of the same name.
* `sortByName`: the ordered list.
-/

namespace Uptime

variable {α : Type}

/-- Inserts a member before the first one whose name is not smaller. -/
def insertByName (name : α → String) (x : α) : List α → List α
  | [] => [x]
  | y :: ys => if name x ≤ name y then x :: y :: ys else y :: insertByName name x ys

/-- The members of a list in the order of their names. -/
def sortByName (name : α → String) (xs : List α) : List α :=
  xs.foldr (insertByName name) []

@[simp] theorem sortByName_nil (name : α → String) : sortByName name ([] : List α) = [] := rfl

@[simp] theorem sortByName_cons (name : α → String) (x : α) (xs : List α) :
    sortByName name (x :: xs) = insertByName name x (sortByName name xs) := rfl

/-- Insertion adds one member and loses none. -/
theorem insertByName_perm (name : α → String) (x : α) (ys : List α) :
    (insertByName name x ys).Perm (x :: ys) := by
  induction ys with
  | nil => exact .refl _
  | cons y ys ih =>
    rw [insertByName]
    split
    · exact .refl _
    · exact (ih.cons y).trans (.swap x y ys)

/-- Sorting only rearranges. -/
theorem sortByName_perm (name : α → String) (xs : List α) : (sortByName name xs).Perm xs := by
  induction xs with
  | nil => exact .refl _
  | cons x xs ih => exact (insertByName_perm name x _).trans (ih.cons x)

end Uptime
