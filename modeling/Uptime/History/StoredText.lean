/-!
# Stored text

The store keeps a text in full and compares, counts and sorts it in full, but a text that is
read back ends before its first NUL.

## Main definitions

* `StoredText.read`: a text as it is read back.
-/

namespace Uptime.StoredText

/-- The text that a stored text is read back as. -/
def read (s : String) : String := String.ofList (s.toList.takeWhile (· ≠ '\x00'))

/-- A text without a NUL is read back as it was stored. -/
theorem read_eq_self {s : String} (h : '\x00' ∉ s.toList) : read s = s := by
  have keep : ∀ cs : List Char, '\x00' ∉ cs → cs.takeWhile (· ≠ '\x00') = cs := by
    intro cs
    induction cs with
    | nil => simp
    | cons c cs ih =>
      intro h
      have hc : c ≠ '\x00' := fun e => h (e ▸ List.mem_cons_self)
      rw [List.takeWhile_cons_of_pos (by simpa using hc),
        ih fun hs => h (List.mem_cons_of_mem _ hs)]
  rw [read, keep _ h, String.ofList_toList]

/-- What is read back has no NUL. -/
theorem nul_notMem_read (s : String) : '\x00' ∉ (read s).toList := by
  intro h
  rw [read, String.toList_ofList] at h
  simpa using List.all_eq_true.1 (List.all_takeWhile (p := fun c => decide (c ≠ '\x00'))) _ h

end Uptime.StoredText
