import Uptime.Proofs.Text.Inline
import Uptime.Proofs.Text.Markup

/-!
# Texts with tags

Messages are put together from plain texts, escaped texts and texts in bold face or in the face of
code. How such a message is marked up, where it has newlines and how long it is follows from its
parts.

## Main results

* `wellFormed_bold`, `wellFormed_code`, `wellFormed_escape`: the parts are well-formed markup.
* `guarded_append`, `guarded_bold_escape`, `guarded_code_escape`: newlines stand within tags.
* `newline_mem_escape_iff`: newlines stay where they are.
* `byteCount_bold`, `byteCount_code`: tags take few bytes.
-/

namespace Uptime.Text

section

variable {s t : String}

theorem wellFormed_append (hs : WellFormed s.toList) (ht : WellFormed t.toList) :
    WellFormed (s ++ t).toList := by
  rw [String.toList_append]
  exact hs.append ht

theorem wellFormed_bold (h : WellFormed s.toList) : WellFormed (bold s).toList := by
  rw [bold, String.toList_append, String.toList_append]
  exact h.enclose .bold

theorem wellFormed_code (h : WellFormed s.toList) : WellFormed (code s).toList := by
  rw [code, String.toList_append, String.toList_append]
  exact h.enclose .code

theorem wellFormed_escape (s : String) : WellFormed (escape s).toList := by
  rw [escape, String.toList_ofList]
  exact wellFormed_escapeChars _

theorem Inline.wellFormed (h : Inline s) : WellFormed s.toList :=
  wellFormed_of_plain h.plain

/-! ### Newlines within tags -/

theorem guarded_append (hs : Guarded s.toList) (ht : Guarded t.toList) :
    Guarded (s ++ t).toList := by
  rw [String.toList_append]
  exact hs.append ht

theorem guarded_bold (h : WellFormed s.toList) (hnone : '<' ∉ s.toList) :
    Guarded (bold s).toList := by
  rw [bold, String.toList_append, String.toList_append]
  exact guarded_enclose h hnone .bold

theorem guarded_code (h : WellFormed s.toList) (hnone : '<' ∉ s.toList) :
    Guarded (code s).toList := by
  rw [code, String.toList_append, String.toList_append]
  exact guarded_enclose h hnone .code

theorem lt_notMem_escape (s : String) : '<' ∉ (escape s).toList := by
  rw [escape, String.toList_ofList]
  exact lt_notMem_escapeChars _

theorem Inline.lt_notMem (h : Inline s) : '<' ∉ s.toList := fun hmem =>
  absurd (h.plain '<' hmem) (by decide)

theorem Inline.guarded (h : Inline s) : Guarded s.toList :=
  h.wellFormed.guarded h.newline_notMem

theorem guarded_bold_escape (s : String) : Guarded (bold (escape s)).toList :=
  guarded_bold (wellFormed_escape s) (lt_notMem_escape s)

theorem guarded_code_escape (s : String) : Guarded (code (escape s)).toList :=
  guarded_code (wellFormed_escape s) (lt_notMem_escape s)

theorem Inline.guarded_bold (h : Inline s) : Guarded (bold s).toList :=
  Text.guarded_bold h.wellFormed h.lt_notMem

theorem Inline.guarded_code (h : Inline s) : Guarded (code s).toList :=
  Text.guarded_code h.wellFormed h.lt_notMem

theorem newline_mem_append_iff : '\n' ∈ (s ++ t).toList ↔ '\n' ∈ s.toList ∨ '\n' ∈ t.toList := by
  rw [String.toList_append, List.mem_append]

theorem newline_mem_bold_iff : '\n' ∈ (bold s).toList ↔ '\n' ∈ s.toList := by
  simp [bold]

theorem newline_mem_code_iff : '\n' ∈ (code s).toList ↔ '\n' ∈ s.toList := by
  simp [code]

theorem newline_mem_escape_iff : '\n' ∈ (escape s).toList ↔ '\n' ∈ s.toList := by
  rw [escape, String.toList_ofList, mem_escapeChars_iff (by decide)]

theorem byteCount_bold (s : String) : byteCount (bold s).toList = byteCount s.toList + 7 := by
  have hopen : byteCount "<b>".toList = 3 := rfl
  have hclose : byteCount "</b>".toList = 4 := rfl
  rw [bold, String.toList_append, String.toList_append, byteCount_append, byteCount_append, hopen,
    hclose]
  omega

theorem byteCount_code (s : String) : byteCount (code s).toList = byteCount s.toList + 13 := by
  have hopen : byteCount "<code>".toList = 6 := rfl
  have hclose : byteCount "</code>".toList = 7 := rfl
  rw [code, String.toList_append, String.toList_append, byteCount_append, byteCount_append, hopen,
    hclose]
  omega

end

end Uptime.Text
