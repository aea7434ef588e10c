import Mathlib.Data.List.Basic
import Uptime.Text.Chunks

/-!
# Lines

A text is taken apart behind each of its newlines. What stands between two of them is a line,
together with the newline behind it, and no line is affected by what comes before or after it.

## Main definitions

* `newlines`: some newlines.

## Main results

* `utf8ByteSize_eq_byteCount`: the size of a text.
* `linesOf_append`: a text that ends with a newline can be put in front.
* `linesOf_eq_append_cons`: what stands between two newlines is a line.
* `exists_trimEnd_append`, `trimEnd_append`: newlines at the end of a text.
-/

namespace Uptime.Text

/-- The size of a text is that of its characters. -/
theorem utf8ByteSize_eq_byteCount (s : String) : s.utf8ByteSize = byteCount s.toList := by
  have hsize : ∀ cs : List Char, (String.ofList cs).utf8ByteSize = byteCount cs := by
    intro cs
    induction cs with
    | nil => rfl
    | cons c cs ih =>
      rw [byteCount_cons, ← ih, ← String.utf8ByteSize_singleton, ← String.utf8ByteSize_append]
      congr 1
      rw [← String.toList_inj]
      simp
  rw [← hsize, String.ofList_toList]

/-! ### Lines -/

theorem linesOf_ne_nil {cs : List Char} (h : cs ≠ []) : linesOf cs ≠ [] := by
  intro hnil
  rw [← flatten_linesOf cs, hnil] at h
  exact h rfl

theorem consToFirst_append (c : Char) {parts : List (List Char)} (h : parts ≠ [])
    (more : List (List Char)) : consToFirst c (parts ++ more) = consToFirst c parts ++ more := by
  cases parts with
  | nil => exact absurd rfl h
  | cons part parts => rfl

/-- **A text that ends with a newline can be put in front** without any change to the lines. -/
theorem linesOf_append {before : List Char} (h : ∀ c ∈ before.getLast?, c = '\n')
    (cs : List Char) : linesOf (before ++ cs) = linesOf before ++ linesOf cs := by
  induction before with
  | nil => rfl
  | cons c before ih =>
    have hbefore : ∀ c ∈ before.getLast?, c = '\n' := fun d hd => h d (by
      rw [List.getLast?_cons, Option.mem_def.mp hd]
      rfl)
    rw [List.cons_append, linesOf, linesOf, ih hbefore]
    by_cases hc : c = '\n'
    · rw [if_pos hc, if_pos hc, List.cons_append]
    · rw [if_neg hc, if_neg hc]
      refine consToFirst_append c (linesOf_ne_nil ?_) _
      rintro rfl
      exact hc (h c rfl)

/-- A text without a newline is one line. -/
theorem linesOf_of_notMem {content : List Char} (h : '\n' ∉ content) (hne : content ≠ []) :
    linesOf content = [content] := by
  induction content with
  | nil => exact absurd rfl hne
  | cons c content ih =>
    obtain ⟨hc, hrest⟩ := not_or.mp (mt List.mem_cons.mpr h)
    rw [linesOf, if_neg (Ne.symm hc)]
    by_cases hnil : content = []
    · rw [hnil]
      rfl
    · rw [ih hrest hnil]
      rfl

theorem linesOf_append_newline {content : List Char} (h : '\n' ∉ content) (cs : List Char) :
    linesOf (content ++ '\n' :: cs) = (content ++ ['\n']) :: linesOf cs := by
  induction content with
  | nil => rfl
  | cons c content ih =>
    obtain ⟨hc, hrest⟩ := not_or.mp (mt List.mem_cons.mpr h)
    rw [List.cons_append, linesOf, if_neg (Ne.symm hc), ih hrest]
    rfl

/-- **What stands between two newlines is a line**, together with the second one. -/
theorem linesOf_eq_append_cons {before content after : List Char}
    (hbefore : ∀ c ∈ before.getLast?, c = '\n') (hcontent : '\n' ∉ content) (hne : content ≠ [])
    (hafter : ∀ c ∈ after.head?, c = '\n') :
    linesOf (before ++ content ++ after) =
      linesOf before ++ (content ++ after.take 1) :: linesOf (after.drop 1) := by
  rw [List.append_assoc, linesOf_append hbefore]
  congr 1
  cases after with
  | nil =>
    rw [List.append_nil, linesOf_of_notMem hcontent hne]
    simp [linesOf]
  | cons c after =>
    obtain rfl := hafter c rfl
    exact linesOf_append_newline hcontent after

/-! ### Newlines at the end -/

/-- Some newlines. -/
def newlines (n : Nat) : List Char := List.replicate n '\n'

@[simp] theorem newlines_zero : newlines 0 = [] := rfl

theorem newlines_add (m n : Nat) : newlines (m + n) = newlines m ++ newlines n :=
  List.replicate_add m n _

/-- The text without the newlines at its end. -/
def trimEnd (cs : List Char) : List Char := trimEndChars (· == '\n') cs

/-- Only newlines are left out. -/
theorem exists_trimEnd_append (cs : List Char) : ∃ n, trimEnd cs ++ newlines n = cs := by
  have hall : ∀ c ∈ cs.reverse.takeWhile (· == '\n'), c = '\n' := fun c hc =>
    beq_iff_eq.mp (List.all_eq_true.mp List.all_takeWhile c hc)
  refine ⟨(cs.reverse.takeWhile (· == '\n')).length, ?_⟩
  rw [newlines, ← List.reverse_replicate, ← List.eq_replicate_of_mem hall, trimEnd, trimEndChars,
    ← List.reverse_append, List.takeWhile_append_dropWhile, List.reverse_reverse]

/-- All of them are. -/
theorem getLast?_trimEnd (cs : List Char) : (trimEnd cs).getLast? ≠ some '\n' := by
  rw [trimEnd, trimEndChars, List.getLast?_reverse]
  intro h
  have := List.head?_dropWhile_not (· == '\n') cs.reverse
  rw [h] at this
  simp at this

/-- What does not end with a newline stays. -/
theorem trimEnd_append {cs : List Char} (h : ∀ c ∈ cs.getLast?, c ≠ '\n') (more : List Char) :
    trimEnd (cs ++ more) = cs ++ trimEnd more := by
  rw [trimEnd, trimEnd, trimEndChars, trimEndChars, List.reverse_append, List.dropWhile_append]
  split
  · next hnone =>
    rw [List.isEmpty_iff.mp hnone, List.reverse_nil, List.append_nil]
    rcases List.eq_nil_or_concat' cs with rfl | ⟨init, c, rfl⟩
    · rfl
    · have hc : c ≠ '\n' := h c (by simp)
      rw [List.reverse_concat, List.dropWhile_cons_of_neg (by simpa using hc), List.reverse_cons,
        List.reverse_reverse]
  · rw [List.reverse_append, List.reverse_reverse]

end Uptime.Text
