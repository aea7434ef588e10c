import Mathlib.Data.List.DropRight
import Uptime.Text.Blank

/-!
# Trimmed texts and their words

A text is trimmed if it neither begins nor ends with a blank. Its first word is then where it
begins, and it is all of the text if there is no blank inside.

## Main definitions

* `Spaced`: a text that has some words, with blanks between them.
* `Trimmed`: a text without the blanks at its ends.

## Main results

* `trimChars_eq_self_iff`: the texts that are left as they are.
* `trim_trim`: trimming once is enough.
* `wordsOf_append`: a word and what follows it.
* `wordsOf_of_head?`: the first word of a trimmed text.
* `spaced_iff`, `trimmed_iff`: the words of a text, and what is trimmed off.
-/

namespace Uptime.Text

section

variable {p : Char → Bool} {cs : List Char}

/-- A trimmed text does not begin with what is trimmed off, -/
theorem of_mem_head?_trimChars : ∀ c ∈ (trimChars p cs).head?, p c = false := by
  intro c hc
  -- its beginning is that of the text without what is trimmed off in front
  obtain ⟨rest, hrest⟩ := List.rdropWhile_prefix p (cs.dropWhile p)
  have hhead := List.head?_dropWhile_not p cs
  have hfirst : ((cs.dropWhile p).rdropWhile p).head? = some c := hc
  rw [← hrest, List.head?_append, hfirst] at hhead
  exact hhead

/-- and does not end with it. -/
theorem of_mem_getLast?_trimChars : ∀ c ∈ (trimChars p cs).getLast?, p c = false := by
  intro c hc
  rw [trimChars, List.getLast?_reverse] at hc
  have hlast := List.head?_dropWhile_not p (cs.dropWhile p).reverse
  rw [Option.mem_def.mp hc] at hlast
  exact hlast

/-- **The texts that trimming leaves as they are.** -/
theorem trimChars_eq_self_iff : trimChars p cs = cs ↔
    (∀ c ∈ cs.head?, p c = false) ∧ ∀ c ∈ cs.getLast?, p c = false := by
  constructor
  · intro h
    rw [← h]
    exact ⟨of_mem_head?_trimChars, of_mem_getLast?_trimChars⟩
  · rintro ⟨hhead, hlast⟩
    have hfront : cs.dropWhile p = cs := by
      cases cs with
      | nil => rfl
      | cons c cs => exact List.dropWhile_cons_of_neg (by simpa using hhead c rfl)
    have hback : cs.reverse.dropWhile p = cs.reverse := by
      rw [← List.head?_reverse] at hlast
      cases hreverse : cs.reverse with
      | nil => rfl
      | cons c rest =>
        rw [hreverse] at hlast
        exact List.dropWhile_cons_of_neg (by simpa using hlast c rfl)
    rw [trimChars, hfront, hback, List.reverse_reverse]

/-- Trimming once is enough. -/
theorem trim_trim (s : String) : trim (trim s) = trim s := by
  rw [trim, trim, String.toList_ofList,
    trimChars_eq_self_iff.mpr ⟨of_mem_head?_trimChars, of_mem_getLast?_trimChars⟩]

theorem trim_eq_self_iff {s : String} : trim s = s ↔
    (∀ c ∈ s.toList.head?, isBlank c = false) ∧ ∀ c ∈ s.toList.getLast?, isBlank c = false := by
  rw [← trimChars_eq_self_iff, ← String.toList_inj, trim, String.toList_ofList]

end

/-! ### Words -/

theorem wordsOf_cons (c : Char) (cs : List Char) : wordsOf (c :: cs) =
    if isBlank c then wordsOf cs
    else (c :: cs.takeWhile (!isBlank ·)) :: wordsOf (cs.dropWhile (!isBlank ·)) := by
  rw [wordsOf.eq_def]

theorem wordsOf_cons_of_isBlank {c : Char} (h : isBlank c = true) (cs : List Char) :
    wordsOf (c :: cs) = wordsOf cs := by
  rw [wordsOf_cons, if_pos h]

/-- **The first word of a trimmed text** is where it begins. -/
theorem wordsOf_of_head? {cs : List Char} (hne : cs ≠ [])
    (hhead : ∀ c ∈ cs.head?, isBlank c = false) :
    wordsOf cs = cs.takeWhile (!isBlank ·) :: wordsOf (cs.dropWhile (!isBlank ·)) := by
  cases cs with
  | nil => exact absurd rfl hne
  | cons c cs =>
    have hc : isBlank c = false := hhead c rfl
    rw [wordsOf_cons, if_neg (by rw [hc]; decide), List.takeWhile_cons_of_pos (by simpa using hc),
      List.dropWhile_cons_of_pos (by simpa using hc)]

/-- A word in front of what is blank or begins with a blank. -/
theorem wordsOf_append {word : List Char} (hword : ∀ c ∈ word, isBlank c = false) (hne : word ≠ [])
    {rest : List Char} (hrest : ∀ c ∈ rest.head?, isBlank c = true) :
    wordsOf (word ++ rest) = word :: wordsOf rest := by
  have hall : ∀ c ∈ word, (!isBlank c) = true := fun c hc => by rw [hword c hc]; rfl
  have htake : rest.takeWhile (!isBlank ·) = [] := by
    cases rest with
    | nil => rfl
    | cons b rest => exact List.takeWhile_cons_of_neg (by simpa using hrest b rfl)
  have hdrop : rest.dropWhile (!isBlank ·) = rest := by
    cases rest with
    | nil => rfl
    | cons b rest => exact List.dropWhile_cons_of_neg (by simpa using hrest b rfl)
  have hhead : ∀ c ∈ (word ++ rest).head?, isBlank c = false := by
    intro c hc
    rw [List.head?_append_of_ne_nil _ hne] at hc
    exact hword c (List.mem_of_mem_head? hc)
  rw [wordsOf_of_head? (by simp [hne]) hhead, List.takeWhile_append_of_pos hall,
    List.dropWhile_append_of_pos hall, htake, hdrop, List.append_nil]

/-- A word, and what follows the blank behind it. -/
theorem wordsOf_append_cons {word : List Char} (hword : word.any isBlank = false)
    (hne : word ≠ []) {b : Char} (hb : isBlank b = true) (cs : List Char) :
    wordsOf (word ++ b :: cs) = word :: wordsOf cs := by
  have hsolid : ∀ c ∈ word, isBlank c = false := fun c hc => by
    simpa using List.any_eq_false.mp hword c hc
  have hrest : ∀ c ∈ (b :: cs).head?, isBlank c = true := by
    intro c hc
    obtain rfl := Option.some.inj hc
    exact hb
  rw [wordsOf_append hsolid hne hrest, wordsOf_cons_of_isBlank hb]

/-- Blanks in front of a text do not matter. -/
theorem wordsOf_append_of_isBlank {pad : List Char} (hpad : ∀ c ∈ pad, isBlank c = true)
    (cs : List Char) : wordsOf (pad ++ cs) = wordsOf cs := by
  induction pad with
  | nil => rfl
  | cons b pad ih =>
    obtain ⟨hb, hrest⟩ := List.forall_mem_cons.mp hpad
    rw [List.cons_append, wordsOf_cons_of_isBlank hb, ih hrest]

/-! ### Spaced words -/

/-- A text that has these words: there may be blanks before each of them and behind the last one,
and between two of them there is at least one. -/
inductive Spaced : List Char → List (List Char) → Prop
  /-- There are only blanks. -/
  | blanks {pad : List Char} (hpad : ∀ c ∈ pad, isBlank c = true) : Spaced pad []
  /-- There is a word in front of what is blank or begins with a blank. -/
  | word {pad word rest : List Char} {words : List (List Char)}
      (hpad : ∀ c ∈ pad, isBlank c = true) (hne : word ≠ [])
      (hword : ∀ c ∈ word, isBlank c = false) (hrest : ∀ c ∈ rest.head?, isBlank c = true)
      (hwords : Spaced rest words) : Spaced (pad ++ word ++ rest) (word :: words)

section

variable {cs pad raw : List Char} {words : List (List Char)}

/-- A blank more in front. -/
theorem Spaced.cons (h : Spaced cs words) {b : Char} (hb : isBlank b = true) :
    Spaced (b :: cs) words := by
  cases h with
  | blanks hpad => exact .blanks (List.forall_mem_cons.mpr ⟨hb, hpad⟩)
  | word hpad hne hword hrest hwords =>
    exact .word (List.forall_mem_cons.mpr ⟨hb, hpad⟩) hne hword hrest hwords

/-- More blanks at the end. -/
theorem Spaced.append (h : Spaced cs words) (hpad : ∀ c ∈ pad, isBlank c = true) :
    Spaced (cs ++ pad) words := by
  induction h with
  | blanks hblanks => exact .blanks (List.forall_mem_append.mpr ⟨hblanks, hpad⟩)
  | @word pad' word rest words hpad' hne hword hrest _ ih =>
    rw [List.append_assoc]
    refine .word hpad' hne hword (fun c hc => ?_) ih
    rw [List.head?_append] at hc
    cases hhead : rest.head? with
    | none =>
      rw [hhead] at hc
      exact hpad c (List.mem_of_mem_head? hc)
    | some b =>
      rw [hhead] at hc
      exact hrest c (hhead.trans hc)

/-- **The words of a text** are those with which it is spaced. -/
theorem spaced_iff : Spaced cs words ↔ wordsOf cs = words := by
  constructor
  · intro h
    induction h with
    | @blanks pad hpad =>
      rw [← List.append_nil pad, wordsOf_append_of_isBlank hpad, wordsOf]
    | word hpad hne hword hrest _ ih =>
      rw [List.append_assoc, wordsOf_append_of_isBlank hpad, wordsOf_append hword hne hrest, ih]
  · rintro rfl
    induction cs using wordsOf.induct with
    | case1 =>
      rw [wordsOf]
      exact .blanks (by simp)
    | case2 c cs hc ih =>
      rw [wordsOf_cons_of_isBlank hc]
      exact ih.cons hc
    | case3 c cs hc ih =>
      have hsolid : ∀ d ∈ c :: cs.takeWhile (!isBlank ·), isBlank d = false := by
        refine List.forall_mem_cons.mpr ⟨by simpa using hc, fun d hd => ?_⟩
        simpa using List.mem_takeWhile_imp hd
      have hrest : ∀ d ∈ (cs.dropWhile (!isBlank ·)).head?, isBlank d = true := by
        intro d hd
        have hstop := List.head?_dropWhile_not (!isBlank ·) cs
        rw [Option.mem_def.mp hd] at hstop
        simpa using hstop
      have hpad : ∀ d ∈ ([] : List Char), isBlank d = true := by simp
      have hspaced := Spaced.word hpad (List.cons_ne_nil _ _) hsolid hrest ih
      rw [List.nil_append, List.cons_append, List.takeWhile_append_dropWhile] at hspaced
      rwa [wordsOf_cons, if_neg hc]

/-- A text without the blanks at its ends. -/
structure Trimmed (cs raw : List Char) : Prop where
  exists_eq : ∃ before after, cs = before ++ raw ++ after ∧ (∀ c ∈ before, isBlank c = true) ∧
    ∀ c ∈ after, isBlank c = true
  head?_solid : ∀ c ∈ raw.head?, isBlank c = false
  getLast?_solid : ∀ c ∈ raw.getLast?, isBlank c = false

/-- What is trimmed off at either end does not matter. -/
theorem trimChars_append_append {p : Char → Bool} {before after : List Char}
    (hbefore : ∀ c ∈ before, p c = true) (hafter : ∀ c ∈ after, p c = true) (cs : List Char) :
    trimChars p (before ++ cs ++ after) = trimChars p cs := by
  have hnone : after.dropWhile p = [] := List.dropWhile_eq_nil_iff.mpr hafter
  have hreverse : ∀ c ∈ after.reverse, p c = true := fun c hc => hafter c (List.mem_reverse.mp hc)
  rw [trimChars, trimChars, List.append_assoc, List.dropWhile_append_of_pos hbefore,
    List.dropWhile_append]
  split
  · next hempty => rw [hnone, List.isEmpty_iff.mp hempty]
  · rw [List.reverse_append, List.dropWhile_append_of_pos hreverse]

theorem trimmed_trimChars (cs : List Char) : Trimmed cs (trimChars isBlank cs) where
  exists_eq := by
    have hblank : ∀ {c : Char} {ds : List Char}, c ∈ ds.takeWhile isBlank → isBlank c = true :=
      fun hc => List.mem_takeWhile_imp hc
    refine ⟨cs.takeWhile isBlank, ((cs.dropWhile isBlank).reverse.takeWhile isBlank).reverse, ?_,
      fun c hc => hblank hc, fun c hc => hblank (List.mem_reverse.mp hc)⟩
    rw [trimChars, List.append_assoc, ← List.reverse_append, List.takeWhile_append_dropWhile,
      List.reverse_reverse, List.takeWhile_append_dropWhile]
  head?_solid := of_mem_head?_trimChars
  getLast?_solid := of_mem_getLast?_trimChars

/-- **Trimming takes the blanks off both ends** and nothing else. -/
theorem trimmed_iff : Trimmed cs raw ↔ trimChars isBlank cs = raw := by
  constructor
  · rintro ⟨⟨before, after, rfl, hbefore, hafter⟩, hhead, hlast⟩
    rw [trimChars_append_append hbefore hafter, trimChars_eq_self_iff]
    exact ⟨hhead, hlast⟩
  · rintro rfl
    exact trimmed_trimChars cs

/-- A text has the same words when it is trimmed. -/
theorem Trimmed.spaced_iff (h : Trimmed cs raw) : Spaced raw words ↔ Spaced cs words := by
  obtain ⟨⟨before, after, rfl, hbefore, hafter⟩, -, -⟩ := h
  have hall : Spaced (before ++ raw ++ after) (wordsOf raw) := by
    refine Spaced.append ?_ hafter
    rw [Text.spaced_iff, wordsOf_append_of_isBlank hbefore]
  rw [Text.spaced_iff, Text.spaced_iff, Text.spaced_iff.mp hall]

/-- A trimmed text begins with its first word. -/
theorem Trimmed.head?_eq (h : Trimmed cs raw) {first : List Char}
    (hwords : Spaced cs (first :: words)) : raw.head? = first.head? := by
  have hhead := h.head?_solid
  cases h.spaced_iff.mpr hwords with
  | @word pad _ rest _ hpad hne _ _ _ =>
    -- a blank in front would have been trimmed off
    cases pad with
    | nil => rw [List.nil_append, List.head?_append_of_ne_nil _ hne]
    | cons b pad =>
      have hb := hpad b List.mem_cons_self
      rw [hhead b rfl] at hb
      cases hb

end

end Uptime.Text
