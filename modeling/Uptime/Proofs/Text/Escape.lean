import Mathlib.Data.List.Basic
import Uptime.Text.Chunks
import Uptime.Text.Markup

/-!
# Escaped texts

The three characters that have a meaning in markup are replaced one after the other, but an escaped
text is what one pass makes of it: every character has an image of its own, and the images can be
read back.

## Main definitions

* `isSpecial`: the characters that have a meaning in markup.
* `Plain`: a text without any of them.
* `image`: what stands for a character in an escaped text.
* `unescapeChars`: undoes escaping.
* `escapeCost`: the bytes that escaping adds.

## Main results

* `image_cases`: a character has a meaning in markup, or it stands for itself.
* `escapeChars_eq_flatMap`: escaping is one pass.
* `unescapeChars_escapeChars`: it can be undone.
* `byteCount_escapeChars`: the size of an escaped text.
-/

namespace Uptime.Text

/-- Whether a character has a meaning in markup. -/
def isSpecial (c : Char) : Bool := c = '<' || c = '>' || c = '&'

/-- A text in which no character has a meaning in markup. -/
def Plain (cs : List Char) : Prop := ∀ c ∈ cs, isSpecial c = false

instance (cs : List Char) : Decidable (Plain cs) :=
  List.decidableBAll (fun c => isSpecial c = false) cs

/-- What stands for a character in an escaped text. -/
def image (c : Char) : List Char :=
  if c = '&' then ['&', 'a', 'm', 'p', ';']
  else if c = '<' then ['&', 'l', 't', ';']
  else if c = '>' then ['&', 'g', 't', ';']
  else [c]

theorem image_of_not_isSpecial {c : Char} (h : isSpecial c = false) : image c = [c] := by
  simp only [isSpecial, Bool.or_eq_false_iff, decide_eq_false_iff_not] at h
  rw [image, if_neg h.2, if_neg h.1.1, if_neg h.1.2]

theorem eq_of_isSpecial {c : Char} (h : isSpecial c = true) : c = '<' ∨ c = '>' ∨ c = '&' := by
  simpa only [isSpecial, Bool.or_eq_true, decide_eq_true_eq, or_assoc] using h

/-- A character has a meaning in markup, or it stands for itself. -/
theorem image_cases (c : Char) :
    (c = '<' ∨ c = '>' ∨ c = '&') ∨ (c ≠ '<' ∧ c ≠ '>' ∧ c ≠ '&') ∧ image c = [c] := by
  cases hc : isSpecial c with
  | true => exact .inl (eq_of_isSpecial hc)
  | false =>
    refine .inr ⟨?_, image_of_not_isSpecial hc⟩
    simpa only [isSpecial, Bool.or_eq_false_iff, decide_eq_false_iff_not, and_assoc] using hc

/-- **Escaping is one pass**, in which no character depends on the others. -/
theorem escapeChars_eq_flatMap (cs : List Char) : escapeChars cs = cs.flatMap image := by
  induction cs with
  | nil => rfl
  | cons c cs ih =>
    rw [← List.singleton_append, escapeChars_append, ih, List.singleton_append, List.flatMap_cons]
    congr 1
    rcases image_cases c with (rfl | rfl | rfl) | ⟨hc, himage⟩
    · rfl
    · rfl
    · rfl
    · rw [himage]
      simp [escapeChars, hc]

theorem escapeChars_cons (c : Char) (cs : List Char) :
    escapeChars (c :: cs) = image c ++ escapeChars cs := by
  rw [escapeChars_eq_flatMap, escapeChars_eq_flatMap, List.flatMap_cons]

/-- What has no meaning in markup is left as it is. -/
theorem escapeChars_eq_self {cs : List Char} (h : Plain cs) : escapeChars cs = cs := by
  induction cs with
  | nil => rfl
  | cons c cs ih =>
    obtain ⟨hc, hcs⟩ := List.forall_mem_cons.mp h
    rw [escapeChars_cons, image_of_not_isSpecial hc, ih hcs, List.singleton_append]

/-- Any other character is in an escaped text if it was there before. -/
theorem mem_escapeChars_iff {c : Char} (h : c ∉ ['&', 'a', 'm', 'p', ';', 'l', 't', 'g', '<', '>'])
    {cs : List Char} : c ∈ escapeChars cs ↔ c ∈ cs := by
  have himage : ∀ d, c ∈ image d ↔ c = d := by
    intro d
    rcases image_cases d with (rfl | rfl | rfl) | ⟨-, himage⟩
    · simp_all [image]
    · simp_all [image]
    · simp_all [image]
    · rw [himage, List.mem_singleton]
  simp [escapeChars_eq_flatMap, himage]

/-- The only character with a meaning in markup that an image has is the ampersand of an entity. -/
theorem eq_ampersand_of_mem_image {c d : Char} (h : d ∈ image c) (hd : isSpecial d = true) :
    d = '&' := by
  have hspecial := eq_of_isSpecial hd
  rcases image_cases c with (rfl | rfl | rfl) | ⟨⟨hlt, hgt, -⟩, himage⟩
  · obtain rfl | rfl | rfl := hspecial <;> simp [image] at h ⊢
  · obtain rfl | rfl | rfl := hspecial <;> simp [image] at h ⊢
  · obtain rfl | rfl | rfl := hspecial <;> simp [image] at h ⊢
  · rw [himage, List.mem_singleton] at h
    rw [h] at hspecial ⊢
    exact (hspecial.resolve_left hlt).resolve_left hgt

theorem eq_ampersand_of_mem_escapeChars {c : Char} {cs : List Char} (h : c ∈ escapeChars cs)
    (hc : isSpecial c = true) : c = '&' := by
  rw [escapeChars_eq_flatMap] at h
  obtain ⟨d, -, hd⟩ := List.mem_flatMap.mp h
  exact eq_ampersand_of_mem_image hd hc

/-- No tag begins in an escaped text, -/
theorem lt_notMem_image (c : Char) : '<' ∉ image c := fun h =>
  absurd (eq_ampersand_of_mem_image h rfl) (by decide)

theorem lt_notMem_escapeChars (cs : List Char) : '<' ∉ escapeChars cs := fun h =>
  absurd (eq_ampersand_of_mem_escapeChars h rfl) (by decide)

/-- and none ends in it. -/
theorem gt_notMem_escapeChars (cs : List Char) : '>' ∉ escapeChars cs := fun h =>
  absurd (eq_ampersand_of_mem_escapeChars h rfl) (by decide)

/-! ### Undoing it -/

/-- Undoes escaping: the three entities are read as the characters that they stand for. -/
def unescapeChars : List Char → List Char
  | [] => []
  | '&' :: 'a' :: 'm' :: 'p' :: ';' :: cs => '&' :: unescapeChars cs
  | '&' :: 'l' :: 't' :: ';' :: cs => '<' :: unescapeChars cs
  | '&' :: 'g' :: 't' :: ';' :: cs => '>' :: unescapeChars cs
  | c :: cs => c :: unescapeChars cs

theorem unescapeChars_image_append (c : Char) (cs : List Char) :
    unescapeChars (image c ++ cs) = c :: unescapeChars cs := by
  rcases image_cases c with (rfl | rfl | rfl) | ⟨⟨-, -, hc⟩, himage⟩
  · simp [image, unescapeChars]
  · simp [image, unescapeChars]
  · simp [image, unescapeChars]
  · rw [himage, List.singleton_append, unescapeChars] <;> simp [hc]

/-- **Escaping can be undone.** -/
theorem unescapeChars_escapeChars (cs : List Char) : unescapeChars (escapeChars cs) = cs := by
  induction cs with
  | nil => rfl
  | cons c cs ih => rw [escapeChars_cons, unescapeChars_image_append, ih]

/-! ### Sizes -/

/-- The bytes that escaping adds. -/
def escapeCost (cs : List Char) : Nat := 4 * cs.count '&' + 3 * cs.count '<' + 3 * cs.count '>'

theorem escapeCost_append (s t : List Char) :
    escapeCost (s ++ t) = escapeCost s + escapeCost t := by
  simp only [escapeCost, List.count_append]
  omega

theorem byteCount_image (c : Char) : byteCount (image c) = c.utf8Size + escapeCost [c] := by
  rcases image_cases c with (rfl | rfl | rfl) | ⟨hc, himage⟩
  · rfl
  · rfl
  · rfl
  · rw [himage]
    simp [escapeCost, hc]

/-- **The size of an escaped text.** -/
theorem byteCount_escapeChars (cs : List Char) :
    byteCount (escapeChars cs) = byteCount cs + escapeCost cs := by
  induction cs with
  | nil => rfl
  | cons c cs ih =>
    have hcost : escapeCost (c :: cs) = escapeCost [c] + escapeCost cs := escapeCost_append [c] cs
    rw [escapeChars_cons, byteCount_append, ih, byteCount_image, byteCount_cons, hcost]
    omega

/-- No character takes more than five bytes in an escaped text. -/
theorem byteCount_escapeChars_le (cs : List Char) :
    byteCount (escapeChars cs) ≤ 5 * cs.length := by
  induction cs with
  | nil => exact Nat.zero_le _
  | cons c cs ih =>
    have himage : byteCount (image c) ≤ 5 := by
      rcases image_cases c with (rfl | rfl | rfl) | ⟨-, himage⟩
      · decide
      · decide
      · decide
      · rw [himage]
        simpa using Nat.le_trans c.utf8Size_le_four (by decide)
    rw [escapeChars_cons, byteCount_append, List.length_cons]
    omega

end Uptime.Text
