import Mathlib.Data.List.Infix
import Uptime.Proofs.Text.Ends

/-!
# Entities

An escaped text is safe: neither angle bracket is in it, and an ampersand is only there where an
entity begins. There is nothing else to safe texts, since each of them is the escaped form of a
text. That text is found again in one pass, or by taking back the three replacements one after the
other, the last one first.

## Main definitions

* `entities`: the texts that stand for characters with a meaning in markup.
* `Safe`: a text that can stand in markup.
* `restore`, `restoreAll`: the replacements the other way round.
* `Encodes`: what an escaped text is like.

## Main results

* `safe_escapeChars`, `escapeChars_unescapeChars`: the escaped texts are the safe ones.
* `restoreAll_escapeChars`: the replacements can be taken back.
* `encodes_escape`: escaping is safe, can be undone and goes piece by piece.
-/

namespace Uptime.Text

/-! ### Safe texts -/

/-- The texts that stand for the characters with a meaning in markup. -/
def entities : List String := ["&amp;", "&lt;", "&gt;"]

/-- A text that can stand in markup: no tag begins or ends in it, and an ampersand is the beginning
of an entity. -/
structure Safe (cs : List Char) : Prop where
  lt_notMem : '<' ∉ cs
  gt_notMem : '>' ∉ cs
  exists_entity : ∀ before after, cs = before ++ '&' :: after →
    ∃ entity ∈ entities, entity.toList <+: '&' :: after

section

variable {c : Char} {cs ds before after : List Char}

theorem Safe.of_append {s t : List Char} (h : Safe (s ++ t)) : Safe t where
  lt_notMem hmem := h.lt_notMem (List.mem_append_right _ hmem)
  gt_notMem hmem := h.gt_notMem (List.mem_append_right _ hmem)
  exists_entity before after heq :=
    h.exists_entity (s ++ before) after (by rw [heq, List.append_assoc])

/-- What a character stands behind when it is not in the text in front. -/
theorem exists_of_append_eq_append_cons (hc : c ∉ cs) (h : cs ++ ds = before ++ c :: after) :
    ∃ more, before = cs ++ more ∧ ds = more ++ c :: after := by
  rcases List.append_eq_append_iff.mp h with ⟨more, hbefore, hds⟩ | ⟨rest, hcs, hrest⟩
  · exact ⟨more, hbefore, hds⟩
  · cases rest with
    | nil => exact ⟨[], by rw [hcs, List.append_nil, List.append_nil], hrest.symm⟩
    | cons b rest =>
      obtain rfl : c = b := (List.cons_eq_cons.mp hrest).1
      exact absurd (hcs ▸ List.mem_append_right _ List.mem_cons_self) hc

/-- The image of a character with a meaning in markup is an entity, -/
theorem exists_entity_eq_image (hc : isSpecial c = true) :
    ∃ entity ∈ entities, entity.toList = image c := by
  obtain rfl | rfl | rfl := eq_of_isSpecial hc
  · exact ⟨"&lt;", by decide, rfl⟩
  · exact ⟨"&gt;", by decide, rfl⟩
  · exact ⟨"&amp;", by decide, rfl⟩

/-- whose only ampersand is where it begins. -/
theorem exists_image_eq_cons (hc : isSpecial c = true) :
    ∃ name, image c = '&' :: name ∧ '&' ∉ name := by
  obtain rfl | rfl | rfl := eq_of_isSpecial hc
  · exact ⟨['l', 't', ';'], rfl, by decide⟩
  · exact ⟨['g', 't', ';'], rfl, by decide⟩
  · exact ⟨['a', 'm', 'p', ';'], rfl, by decide⟩

/-- Every ampersand of an escaped text begins an entity. -/
theorem exists_entity_of_escapeChars_eq (h : escapeChars cs = before ++ '&' :: after) :
    ∃ entity ∈ entities, entity.toList <+: '&' :: after := by
  induction cs generalizing before with
  | nil => simp at h
  | cons c cs ih =>
    rw [escapeChars_cons] at h
    by_cases hc : isSpecial c = true
    · obtain ⟨name, himage, hname⟩ := exists_image_eq_cons hc
      cases before with
      | nil =>
        obtain ⟨entity, hentity, htext⟩ := exists_entity_eq_image hc
        exact ⟨entity, hentity, htext ▸ ⟨escapeChars cs, h⟩⟩
      | cons b before =>
        -- it stands behind the name of this entity
        rw [himage] at h
        obtain ⟨more, -, hmore⟩ := exists_of_append_eq_append_cons hname (List.cons_eq_cons.mp h).2
        exact ih hmore
    · rw [Bool.not_eq_true] at hc
      have hother : '&' ∉ [c] := by
        rw [List.mem_singleton]
        rintro rfl
        cases hc
      rw [image_of_not_isSpecial hc] at h
      obtain ⟨more, -, hmore⟩ := exists_of_append_eq_append_cons hother h
      exact ih hmore

/-- **An escaped text is safe.** -/
theorem safe_escapeChars (cs : List Char) : Safe (escapeChars cs) :=
  ⟨lt_notMem_escapeChars cs, gt_notMem_escapeChars cs,
    fun _ _ h => exists_entity_of_escapeChars_eq h⟩

/-- **A safe text is an escaped one**, namely that of the text that is read from it. -/
theorem escapeChars_unescapeChars (h : Safe cs) : escapeChars (unescapeChars cs) = cs := by
  induction cs using unescapeChars.induct with
  | case1 => rfl
  | case2 cs ih =>
    rw [unescapeChars, escapeChars_cons, ih (h.of_append (s := ['&', 'a', 'm', 'p', ';']))]
    rfl
  | case3 cs ih =>
    rw [unescapeChars, escapeChars_cons, ih (h.of_append (s := ['&', 'l', 't', ';']))]
    rfl
  | case4 cs ih =>
    rw [unescapeChars, escapeChars_cons, ih (h.of_append (s := ['&', 'g', 't', ';']))]
    rfl
  | case5 c cs hamp hlt hgt ih =>
    have hplain : isSpecial c = false := by
      rw [← Bool.not_eq_true]
      intro hc
      obtain rfl | rfl | rfl := eq_of_isSpecial hc
      · exact h.lt_notMem List.mem_cons_self
      · exact h.gt_notMem List.mem_cons_self
      · -- an ampersand would begin one of the entities
        obtain ⟨entity, hentity, rest, hrest⟩ := h.exists_entity [] cs rfl
        simp only [entities, List.mem_cons, List.not_mem_nil, or_false] at hentity
        obtain rfl | rfl | rfl := hentity
        · exact hamp rest rfl (List.cons_eq_cons.mp hrest).2.symm
        · exact hlt rest rfl (List.cons_eq_cons.mp hrest).2.symm
        · exact hgt rest rfl (List.cons_eq_cons.mp hrest).2.symm
    rw [unescapeChars, escapeChars_cons, image_of_not_isSpecial hplain,
      ih (h.of_append (s := [c])), List.singleton_append]
    all_goals assumption

end

/-! ### Taking the replacements back -/

/-- Replaces every occurrence of a text by a character, from the left. -/
def restore (entity : List Char) (c : Char) : List Char → List Char
  | [] => []
  | d :: cs =>
    if entity <+: d :: cs then c :: restore entity c (cs.drop (entity.length - 1))
    else d :: restore entity c cs
termination_by cs => cs.length
decreasing_by
  · simp only [List.length_drop, List.length_cons]
    omega
  · simp

/-- The three replacements taken back. The ampersand comes last, because the other two entities
would otherwise be read from what it has been taken back to. -/
def restoreAll (cs : List Char) : List Char :=
  restore (image '&') '&' (restore (image '<') '<' (restore (image '>') '>' cs))

/-- What stands for a character if only some of those with a meaning in markup are replaced. -/
def imageIn (replaced : List Char) (c : Char) : List Char :=
  if c ∈ replaced then image c else [c]

section

variable {c d : Char} {replaced cs rest : List Char}

@[simp] theorem restore_nil (entity : List Char) (c : Char) : restore entity c [] = [] := by
  rw [restore]

/-- No entity begins where there is no ampersand. -/
theorem restore_append_of_notMem (hc : isSpecial c = true) (h : '&' ∉ cs) (rest : List Char) :
    restore (image c) c (cs ++ rest) = cs ++ restore (image c) c rest := by
  obtain ⟨name, himage, -⟩ := exists_image_eq_cons hc
  induction cs with
  | nil => rfl
  | cons d cs ih =>
    obtain ⟨hd, hcs⟩ := not_or.mp (mt List.mem_cons.mpr h)
    rw [List.cons_append, restore, if_neg, ih hcs, List.cons_append]
    rw [himage, List.cons_prefix_cons]
    exact fun hprefix => hd hprefix.1

/-- An entity is replaced, -/
theorem restore_image_append (hc : isSpecial c = true) (rest : List Char) :
    restore (image c) c (image c ++ rest) = c :: restore (image c) c rest := by
  obtain ⟨name, himage, -⟩ := exists_image_eq_cons hc
  have hprefix : image c <+: '&' :: (name ++ rest) := by
    rw [himage]
    exact List.prefix_append ('&' :: name) rest
  have hdrop : (name ++ rest).drop ((image c).length - 1) = rest := by
    rw [himage]
    exact List.drop_left
  rw [show image c ++ rest = '&' :: (name ++ rest) from congrArg (· ++ rest) himage, restore,
    if_pos hprefix, hdrop]

/-- and another one is left alone. -/
theorem restore_image_append_of_ne (hc : isSpecial c = true) (hd : isSpecial d = true)
    (hne : d ≠ c) (rest : List Char) :
    restore (image c) c (image d ++ rest) = image d ++ restore (image c) c rest := by
  obtain ⟨name, himage, hname⟩ := exists_image_eq_cons hd
  have hprefix : ¬ image c <+: '&' :: (name ++ rest) := by
    rintro ⟨more, hmore⟩
    -- what is read from the two would begin differently
    have hread := congrArg unescapeChars hmore
    rw [← List.cons_append, ← himage, unescapeChars_image_append, unescapeChars_image_append]
      at hread
    exact hne (List.cons_eq_cons.mp hread).1.symm
  rw [himage, List.cons_append, restore, if_neg hprefix, restore_append_of_notMem hc hname,
    List.cons_append]

/-- Taking back one of the replacements leaves the other ones, if none of what it has brought in has
been replaced behind it. -/
theorem restore_flatMap_imageIn (hc : isSpecial c = true) (hnew : c ∉ replaced)
    (hspecial : replaced.all isSpecial = true) (hamp : '&' ∈ c :: replaced)
    (cs : List Char) :
    restore (image c) c (cs.flatMap (imageIn (c :: replaced))) = cs.flatMap (imageIn replaced) := by
  induction cs with
  | nil => exact restore_nil _ _
  | cons d cs ih =>
    rw [List.flatMap_cons, List.flatMap_cons, ← ih]
    by_cases hdc : d = c
    · rw [hdc, imageIn, if_pos List.mem_cons_self, imageIn, if_neg hnew, restore_image_append hc,
        List.singleton_append]
    by_cases hd : d ∈ replaced
    · rw [imageIn, if_pos (List.mem_cons_of_mem c hd), imageIn, if_pos hd,
        restore_image_append_of_ne hc (List.all_eq_true.mp hspecial d hd) hdc]
    · have hnone : d ∉ c :: replaced := by simp [hdc, hd]
      have hother : '&' ∉ [d] := by
        rw [List.mem_singleton]
        rintro rfl
        exact hnone hamp
      rw [imageIn, if_neg hnone, imageIn, if_neg hd, restore_append_of_notMem hc hother]

/-- **The three replacements can be taken back** one after the other. -/
theorem restoreAll_escapeChars (cs : List Char) : restoreAll (escapeChars cs) = cs := by
  have hall : image = imageIn ['>', '<', '&'] := by
    funext c
    by_cases hc : c ∈ ['>', '<', '&']
    · rw [imageIn, if_pos hc]
    · rw [imageIn, if_neg hc, image_of_not_isSpecial]
      simpa [isSpecial, and_assoc, and_left_comm] using hc
  have hnone : cs.flatMap (imageIn []) = cs := List.flatMap_singleton' cs
  rw [escapeChars_eq_flatMap, hall, restoreAll,
    restore_flatMap_imageIn rfl (by decide) rfl (by decide),
    restore_flatMap_imageIn rfl (by decide) rfl (by decide),
    restore_flatMap_imageIn rfl (by decide) rfl (by decide), hnone]

end

/-! ### Escaping -/

/-- What an escaped text is like, next to the text that it stands for. -/
structure Encodes (s e : String) : Prop where
  /-- The three replacements come to one pass, in which every character gets its image. -/
  eq_flatMap : e.toList = s.toList.flatMap image
  /-- The result can stand in markup. -/
  safe : Safe e.toList
  /-- The text is found again in one pass, -/
  unescapeChars_eq : unescapeChars e.toList = s.toList
  /-- and by taking the replacements back. -/
  restoreAll_eq : restoreAll e.toList = s.toList

/-- **Escaping is safe, can be undone and goes piece by piece**: what can stand in markup is exactly
what some text is escaped to, that text is determined, and a piece is escaped in the same way
whatever stands around it. -/
theorem encodes_escape :
    (∀ s, Encodes s (escape s)) ∧ (∀ e : String, Safe e.toList ↔ ∃ s, escape s = e) ∧
      (∀ s t, escape s = escape t ↔ s = t) ∧ ∀ s t, escape (s ++ t) = escape s ++ escape t := by
  refine ⟨fun s => ?_, fun e => ⟨fun h => ?_, ?_⟩, fun _ _ => escape_inj, fun s t => ?_⟩
  · have htext : (escape s).toList = escapeChars s.toList := String.toList_ofList
    refine ⟨?_, ?_, ?_, ?_⟩ <;> rw [htext]
    · exact escapeChars_eq_flatMap _
    · exact safe_escapeChars _
    · exact unescapeChars_escapeChars _
    · exact restoreAll_escapeChars _
  · refine ⟨String.ofList (unescapeChars e.toList), ?_⟩
    rw [escape, String.toList_ofList, escapeChars_unescapeChars h, String.ofList_toList]
  · rintro ⟨s, rfl⟩
    rw [escape, String.toList_ofList]
    exact safe_escapeChars _
  · rw [escape, String.toList_append, escapeChars_append, String.ofList_append, escape, escape]

end Uptime.Text
