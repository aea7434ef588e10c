import Uptime.Proofs.Text.Tags

/-!
# Where texts end

A text can be read off a message if it can be seen where it ends. No tag begins in an escaped text,
so one that stands within tags ends at the next tag, whatever follows.

## Main results

* `eq_of_append_cons`, `eq_of_append_cons_last`: a text ends at the first delimiter, or begins
  behind the last one.
* `escape_inj`, `toString_inj`: an escaped text and a number can be read back.
* `code_append_inj`, `bold_append_inj`: so can a text within tags, and what follows it.
* `join_map_inj`: so can a list that is written in lines.
-/

namespace Uptime.Text

section

variable {c : Char} {cs ds rest rest' : List Char} {s t r r' : String}

/-- A text ends where the first character stands that it does not have. -/
theorem eq_of_append_cons (hcs : c ∉ cs) (hds : c ∉ ds) (h : cs ++ c :: rest = ds ++ c :: rest') :
    cs = ds ∧ rest = rest' := by
  induction cs generalizing ds with
  | nil =>
    cases ds with
    | nil => exact ⟨rfl, (List.cons_eq_cons.mp h).2⟩
    | cons d ds =>
      obtain rfl : c = d := (List.cons_eq_cons.mp h).1
      exact absurd List.mem_cons_self hds
  | cons b cs ih =>
    cases ds with
    | nil =>
      obtain rfl : b = c := (List.cons_eq_cons.mp h).1
      exact absurd List.mem_cons_self hcs
    | cons d ds =>
      obtain ⟨rfl, htail⟩ := List.cons_eq_cons.mp h
      obtain ⟨rfl, hrest⟩ := ih (fun hmem => hcs (List.mem_cons_of_mem _ hmem))
        (fun hmem => hds (List.mem_cons_of_mem _ hmem)) htail
      exact ⟨rfl, hrest⟩

/-- A text begins behind the last character that it does not have. -/
theorem eq_of_append_cons_last (hrest : c ∉ rest) (hrest' : c ∉ rest')
    (h : cs ++ c :: rest = ds ++ c :: rest') : cs = ds ∧ rest = rest' := by
  have hreverse := congrArg List.reverse h
  simp only [List.reverse_append, List.reverse_cons, List.append_assoc, List.singleton_append]
    at hreverse
  obtain ⟨hlast, hfirst⟩ :=
    eq_of_append_cons (by rwa [List.mem_reverse]) (by rwa [List.mem_reverse]) hreverse
  exact ⟨List.reverse_injective hfirst, List.reverse_injective hlast⟩

theorem escape_inj : escape s = escape t ↔ s = t := by
  refine ⟨fun h => ?_, congrArg escape⟩
  have hchars := congrArg unescapeChars (String.ofList_injective h)
  rw [unescapeChars_escapeChars, unescapeChars_escapeChars] at hchars
  exact String.toList_injective hchars

theorem toString_inj {n n' : Nat} : toString n = toString n' ↔ n = n' := by
  refine ⟨fun h => ?_, congrArg toString⟩
  rw [Nat.toString_eq_ofList_toDigits, Nat.toString_eq_ofList_toDigits] at h
  have hread := congrArg (Nat.ofDigitChars 10 · 0) (String.ofList_injective h)
  simpa only [Nat.ofDigitChars_ten_toDigits] using hread

/-- A text ends where a tag begins, if none begins in it. -/
theorem append_tag_inj {tag : String} (htag : tag.toList.head? = some '<')
    (hs : '<' ∉ s.toList) (ht : '<' ∉ t.toList) :
    s ++ (tag ++ r) = t ++ (tag ++ r') ↔ s = t ∧ r = r' := by
  refine ⟨fun h => ?_, by rintro ⟨rfl, rfl⟩; rfl⟩
  obtain ⟨rest, hrest⟩ := List.head?_eq_some_iff.mp htag
  have hchars := congrArg String.toList h
  simp only [String.toList_append, hrest, List.cons_append] at hchars
  obtain ⟨hst, hbehind⟩ := eq_of_append_cons hs ht hchars
  exact ⟨String.toList_injective hst, String.toList_injective (List.append_cancel_left hbehind)⟩

/-- **A text in the face of code** can be told from what follows it. -/
theorem code_append_inj (hs : '<' ∉ s.toList) (ht : '<' ∉ t.toList) :
    code s ++ r = code t ++ r' ↔ s = t ∧ r = r' := by
  simp only [code, String.append_assoc, String.append_right_inj]
  exact append_tag_inj (by decide) hs ht

/-- So can a text in bold face. -/
theorem bold_append_inj (hs : '<' ∉ s.toList) (ht : '<' ∉ t.toList) :
    bold s ++ r = bold t ++ r' ↔ s = t ∧ r = r' := by
  simp only [bold, String.append_assoc, String.append_right_inj]
  exact append_tag_inj (by decide) hs ht

/-- What some items tell can be read off their lines, if what one of them tells can be read off its
line and whatever follows it. -/
theorem join_map_inj {α β γ : Type} {line : α → String} {line' : β → String} (told : α → γ)
    (told' : β → γ) (hne : ∀ a, line a ≠ "") (hne' : ∀ b, line' b ≠ "")
    (hline : ∀ a b r r', line a ++ r = line' b ++ r' ↔ told a = told' b ∧ r = r')
    (as : List α) (bs : List β) :
    String.join (as.map line) = String.join (bs.map line') ↔ as.map told = bs.map told' := by
  induction as generalizing bs with
  | nil =>
    cases bs with
    | nil => exact iff_of_true rfl rfl
    | cons b bs =>
      rw [List.map_cons, String.join_cons, eq_comm]
      simp [hne' b]
  | cons a as ih =>
    cases bs with
    | nil =>
      rw [List.map_cons, String.join_cons]
      simp [hne a]
    | cons b bs =>
      rw [List.map_cons, List.map_cons, String.join_cons, String.join_cons, hline, ih,
        List.map_cons, List.map_cons, List.cons_eq_cons]

end

end Uptime.Text
