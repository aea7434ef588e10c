import Mathlib.Data.List.Basic
import Uptime.Proofs.Text.Escape
import Uptime.Proofs.Text.Lines

/-!
# Well-formed markup

Markup is made of characters, each as its image, and of tags that open and close. It is well-formed
if every tag that is opened is closed again, in the opposite order, and no other one is closed. A
text that is cut within a tag or an entity is no markup at all.

## Main definitions

* `Tag`, `Token`: what markup is made of.
* `Token.step`: the tags that are open behind a token.
* `Whole`: a text in which no tag and no entity is cut.
* `WellFormed`: well-formed markup.
* `MeetAtNewline`: texts between which there is a newline.
* `Guarded`: markup with newlines within tags only.

## Main results

* `wellFormed_escapeChars`, `WellFormed.enclose`, `WellFormed.append`: how markup is put together.
* `WellFormed.of_append_left`: what follows well-formed markup.
* `WellFormed.of_append_newline`: a newline at the end can be left out.
* `Whole.of_append`: no tag and no entity is cut at a newline.
* `WellFormed.even_count`: how often a tag may begin.
* `Guarded.append`, `guarded_enclose`: where the newlines of markup are.
-/

namespace Uptime.Text

/-- The faces in which a text may be set. -/
inductive Tag
  /-- Bold face. -/
  | bold
  /-- The face of code. -/
  | code
  deriving DecidableEq, Repr

/-- The name of a tag. -/
def Tag.word : Tag → List Char
  | bold => ['b']
  | code => ['c', 'o', 'd', 'e']

/-- What markup is made of. -/
inductive Token
  /-- A character, which is an entity if it has a meaning in markup. -/
  | char (c : Char)
  /-- The beginning of a face. -/
  | opening (t : Tag)
  /-- The end of a face. -/
  | closing (t : Tag)
  deriving DecidableEq, Repr

namespace Token

/-- The text of a token. -/
def text : Token → List Char
  | char c => image c
  | opening t => '<' :: t.word ++ ['>']
  | closing t => '<' :: '/' :: t.word ++ ['>']

/-- The tags that are open behind a token, the last one first. Only the last one may be closed. -/
def step : List Tag → Token → Option (List Tag)
  | tags, char _ => some tags
  | tags, opening t => some (t :: tags)
  | [], closing _ => none
  | t :: tags, closing u => if t = u then some tags else none

end Token

/-- No tag and no entity is cut, and no character with a meaning in markup stands alone. -/
def Whole (cs : List Char) : Prop := ∃ ts : List Token, ts.flatMap Token.text = cs

/-- Every tag that is opened is closed again, and none is closed that is not open. -/
def WellFormed (cs : List Char) : Prop :=
  ∃ ts : List Token, ts.flatMap Token.text = cs ∧ ts.foldlM Token.step [] = some []

/-! ### Putting markup together -/

section

variable {s t cs : List Char} {ts : List Token} {tags tags' : List Tag}

theorem WellFormed.whole (h : WellFormed cs) : Whole cs := h.imp fun _ h => h.1

theorem Whole.append (hs : Whole s) (ht : Whole t) : Whole (s ++ t) := by
  obtain ⟨xs, rfl⟩ := hs
  obtain ⟨ys, rfl⟩ := ht
  exact ⟨xs ++ ys, List.flatMap_append⟩

theorem WellFormed.append (hs : WellFormed s) (ht : WellFormed t) : WellFormed (s ++ t) := by
  obtain ⟨xs, rfl, hxs⟩ := hs
  obtain ⟨ys, rfl, hys⟩ := ht
  exact ⟨xs ++ ys, List.flatMap_append, by rw [List.foldlM_append, hxs]; exact hys⟩

theorem wellFormed_nil : WellFormed [] := ⟨[], rfl, rfl⟩

/-- What is well-formed by itself leaves alone whatever tags are open around it. -/
theorem foldlM_step_append (h : ts.foldlM Token.step tags = some tags') (around : List Tag) :
    ts.foldlM Token.step (tags ++ around) = some (tags' ++ around) := by
  induction ts generalizing tags with
  | nil =>
    obtain rfl : tags = tags' := Option.some.inj h
    rfl
  | cons token ts ih =>
    obtain ⟨next, hstep, hrest⟩ := Option.bind_eq_some_iff.mp h
    refine Option.bind_eq_some_iff.mpr ⟨next ++ around, ?_, ih hrest⟩
    cases token with
    | char c =>
      obtain rfl : tags = next := Option.some.inj hstep
      rfl
    | opening t =>
      obtain rfl : t :: tags = next := Option.some.inj hstep
      rfl
    | closing t =>
      cases tags with
      | nil => cases hstep
      | cons u tags =>
        rw [Token.step] at hstep
        split at hstep
        · next heq =>
          obtain rfl : tags = next := Option.some.inj hstep
          exact if_pos heq
        · cases hstep

/-- **A tag around what is well-formed.** -/
theorem WellFormed.enclose (h : WellFormed cs) (t : Tag) :
    WellFormed ((Token.opening t).text ++ cs ++ (Token.closing t).text) := by
  obtain ⟨ts, rfl, hts⟩ := h
  refine ⟨.opening t :: ts ++ [.closing t], by simp, ?_⟩
  have hinner : ts.foldlM Token.step [t] = some [t] := foldlM_step_append hts [t]
  simp [Token.step, hinner]

/-- **An escaped text is well-formed**, whatever its characters. -/
theorem wellFormed_escapeChars (cs : List Char) : WellFormed (escapeChars cs) := by
  refine ⟨cs.map .char, by rw [escapeChars_eq_flatMap, List.flatMap_map]; rfl, ?_⟩
  induction cs with
  | nil => rfl
  | cons c cs ih => exact ih

/-- So is a text without any character that has a meaning in markup. -/
theorem wellFormed_of_plain (h : Plain cs) : WellFormed cs :=
  escapeChars_eq_self h ▸ wellFormed_escapeChars cs

end

/-! ### Reading tokens -/

section

variable {s t cs : List Char} {ts us : List Token}

theorem text_ne_nil (token : Token) : token.text ≠ [] := by
  cases token with
  | char c =>
    rcases image_cases c with (rfl | rfl | rfl) | ⟨-, himage⟩
    · simp [Token.text, image]
    · simp [Token.text, image]
    · simp [Token.text, image]
    · simp [Token.text, himage]
  | opening t => simp [Token.text]
  | closing t => simp [Token.text]

/-- No image begins like a tag. -/
theorem image_append_ne (c : Char) (s t : List Char) : image c ++ s ≠ '<' :: t := by
  intro h
  obtain ⟨d, rest, himage⟩ := List.exists_cons_of_ne_nil (text_ne_nil (.char c))
  have hd : image c = d :: rest := himage
  rw [hd] at h
  obtain rfl : d = '<' := (List.cons_eq_cons.mp h).1
  exact lt_notMem_image c (hd ▸ List.mem_cons_self)

/-- **The first token of a text** can be told from the text. -/
theorem eq_of_text_append {token token' : Token} (h : token.text ++ s = token'.text ++ t) :
    token = token' := by
  cases token with
  | char c =>
    cases token' with
    | char d =>
      have hread := congrArg unescapeChars h
      simp only [Token.text, unescapeChars_image_append] at hread
      rw [(List.cons_eq_cons.mp hread).1]
    | opening u => exact absurd h (image_append_ne c _ _)
    | closing u => exact absurd h (image_append_ne c _ _)
  | opening u =>
    cases token' with
    | char c => exact absurd h.symm (image_append_ne c _ _)
    | opening v => cases u <;> cases v <;> simp [Token.text, Tag.word] at h ⊢
    | closing v => cases u <;> simp [Token.text, Tag.word] at h
  | closing u =>
    cases token' with
    | char c => exact absurd h.symm (image_append_ne c _ _)
    | opening v => cases v <;> simp [Token.text, Tag.word] at h
    | closing v => cases u <;> cases v <;> simp [Token.text, Tag.word] at h ⊢

/-- So can the tokens that it begins with. -/
theorem exists_append_of_flatMap_text
    (h : ts.flatMap Token.text = us.flatMap Token.text ++ cs) :
    ∃ rest, ts = us ++ rest ∧ rest.flatMap Token.text = cs := by
  induction us generalizing ts with
  | nil => exact ⟨ts, rfl, h⟩
  | cons u us ih =>
    cases ts with
    | nil =>
      rw [List.flatMap_cons, List.append_assoc] at h
      exact absurd (List.append_eq_nil_iff.mp h.symm).1 (text_ne_nil u)
    | cons token ts =>
      rw [List.flatMap_cons, List.flatMap_cons, List.append_assoc] at h
      obtain rfl := eq_of_text_append h
      obtain ⟨rest, rfl, hrest⟩ := ih (List.append_cancel_left h)
      exact ⟨rest, rfl, hrest⟩

theorem Whole.of_append_left (hs : Whole s) (h : Whole (s ++ t)) : Whole t := by
  obtain ⟨us, rfl⟩ := hs
  obtain ⟨ts, hts⟩ := h
  obtain ⟨rest, -, hrest⟩ := exists_append_of_flatMap_text hts
  exact ⟨rest, hrest⟩

/-- **What follows well-formed markup** is well-formed if all of it is. -/
theorem WellFormed.of_append_left (hs : WellFormed s) (h : WellFormed (s ++ t)) :
    WellFormed t := by
  obtain ⟨us, rfl, hus⟩ := hs
  obtain ⟨ts, hts, hnest⟩ := h
  obtain ⟨rest, rfl, hrest⟩ := exists_append_of_flatMap_text hts
  refine ⟨rest, hrest, ?_⟩
  rw [List.foldlM_append, hus] at hnest
  exact hnest

end

/-! ### Newlines in markup -/

section

variable {s t cs : List Char} {ts : List Token} {token : Token}

/-- A newline is a token of its own. -/
theorem eq_newline_of_mem_text (h : '\n' ∈ token.text) : token = .char '\n' := by
  cases token with
  | char c =>
    rcases image_cases c with (rfl | rfl | rfl) | ⟨-, himage⟩
    · simp [Token.text, image] at h
    · simp [Token.text, image] at h
    · simp [Token.text, image] at h
    · rw [Token.text, himage, List.mem_singleton] at h
      rw [h]
  | opening t => cases t <;> simp [Token.text, Tag.word] at h
  | closing t => cases t <;> simp [Token.text, Tag.word] at h

/-- The last token of a text that ends with a newline. -/
theorem exists_tokens_of_append_newline (h : ts.flatMap Token.text = cs ++ ['\n']) :
    ∃ init, ts = init ++ [.char '\n'] ∧ init.flatMap Token.text = cs := by
  obtain rfl | ⟨init, token, rfl⟩ := List.eq_nil_or_concat' ts
  · simp at h
  rw [List.flatMap_append, List.flatMap_singleton] at h
  have hlast : token.text.getLast? = some '\n' := by
    rw [← List.getLast?_append_of_ne_nil _ (text_ne_nil token), h, List.getLast?_concat]
  obtain rfl := eq_newline_of_mem_text (List.mem_of_getLast? hlast)
  exact ⟨init, rfl, (List.append_inj' h rfl).1⟩

/-- **A newline at the end can be left out.** -/
theorem WellFormed.of_append_newline (h : WellFormed (cs ++ ['\n'])) : WellFormed cs := by
  obtain ⟨ts, hts, hnest⟩ := h
  obtain ⟨init, rfl, hinit⟩ := exists_tokens_of_append_newline hts
  refine ⟨init, hinit, ?_⟩
  rw [List.foldlM_append] at hnest
  obtain ⟨tags, htags, hlast⟩ := Option.bind_eq_some_iff.mp hnest
  obtain rfl : tags = [] := Option.some.inj hlast
  exact htags

/-- Two texts meet at a newline. -/
def MeetAtNewline (s t : List Char) : Prop := s.getLast? = some '\n' ∨ t.head? = some '\n'

theorem not_meetAtNewline (h : '\n' ∉ s ++ t) : ¬ MeetAtNewline s t := by
  rintro (hlast | hhead)
  · exact h (List.mem_append_left _ (List.mem_of_getLast? hlast))
  · exact h (List.mem_append_right _ (List.mem_of_mem_head? hhead))

theorem meetAtNewline_append_left_iff (hne : t ≠ []) :
    MeetAtNewline (s ++ t) cs ↔ MeetAtNewline t cs := by
  rw [MeetAtNewline, List.getLast?_append_of_ne_nil _ hne, MeetAtNewline]

theorem meetAtNewline_append_right_iff (hne : t ≠ []) :
    MeetAtNewline s (t ++ cs) ↔ MeetAtNewline s t := by
  rw [MeetAtNewline, List.head?_append_of_ne_nil _ hne, MeetAtNewline]

/-- **No tag and no entity is cut** where markup is divided at a newline. -/
theorem Whole.of_append (h : Whole (s ++ t)) (hmeet : MeetAtNewline s t) : Whole s := by
  obtain ⟨ts, hts⟩ := h
  induction ts generalizing s with
  | nil =>
    obtain ⟨rfl, -⟩ := List.append_eq_nil_iff.mp hts.symm
    exact ⟨[], rfl⟩
  | cons token ts ih =>
    rw [List.flatMap_cons] at hts
    have hwhole : Whole token.text := ⟨[token], List.flatMap_singleton ..⟩
    rcases List.append_eq_append_iff.mp hts with ⟨more, rfl, hmore⟩ | ⟨rest, htoken, rfl⟩
    · by_cases hnil : more = []
      · rwa [hnil, List.append_nil]
      · exact hwhole.append (ih ((meetAtNewline_append_left_iff hnil).mp hmeet) hmore)
    · -- a newline is not divided, and there is none in any other token
      by_cases hs : s = []
      · exact hs ▸ ⟨[], rfl⟩
      by_cases hrest : rest = []
      · rwa [htoken, hrest, List.append_nil] at hwhole
      rw [meetAtNewline_append_right_iff hrest] at hmeet
      have hmem : '\n' ∈ token.text := by
        by_contra hnone
        exact not_meetAtNewline (htoken ▸ hnone) hmeet
      have hlength := congrArg List.length htoken
      have hpos := List.length_pos_iff.mpr hs
      have hpos' := List.length_pos_iff.mpr hrest
      rw [eq_newline_of_mem_text hmem, List.length_append] at hlength
      exact absurd hlength (Nat.ne_of_lt (Nat.add_le_add hpos hpos'))

end

/-! ### Counting tags -/

/-- Every tag that is opened or closed begins with the same character, which stands nowhere else. -/
theorem even_count_of_foldlM {ts : List Token} {tags tags' : List Tag}
    (h : ts.foldlM Token.step tags = some tags') :
    ((ts.flatMap Token.text).count '<' + tags.length + tags'.length) % 2 = 0 := by
  induction ts generalizing tags with
  | nil =>
    obtain rfl : tags = tags' := Option.some.inj h
    simp only [List.flatMap_nil, List.count_nil]
    omega
  | cons token ts ih =>
    obtain ⟨next, hstep, hrest⟩ := Option.bind_eq_some_iff.mp h
    have hcount := ih hrest
    rw [List.flatMap_cons, List.count_append]
    cases token with
    | char c =>
      obtain rfl : tags = next := Option.some.inj hstep
      have hnone : (Token.char c).text.count '<' = 0 :=
        List.count_eq_zero_of_not_mem (lt_notMem_image c)
      omega
    | opening t =>
      obtain rfl : t :: tags = next := Option.some.inj hstep
      have hone : (Token.opening t).text.count '<' = 1 := by cases t <;> rfl
      rw [List.length_cons] at hcount
      omega
    | closing t =>
      have hone : (Token.closing t).text.count '<' = 1 := by cases t <;> rfl
      cases tags with
      | nil => cases hstep
      | cons u tags =>
        rw [Token.step] at hstep
        split at hstep
        · obtain rfl : tags = next := Option.some.inj hstep
          rw [List.length_cons]
          omega
        · cases hstep

/-- In well-formed markup there are as many that open as that close. -/
theorem WellFormed.even_count {cs : List Char} (h : WellFormed cs) : cs.count '<' % 2 = 0 := by
  obtain ⟨ts, rfl, hnest⟩ := h
  exact even_count_of_foldlM hnest

/-! ### Newlines within tags -/

/-- Markup in which newlines stand within tags only: where it is divided at one, a tag is open. -/
structure Guarded (cs : List Char) : Prop where
  wellFormed : WellFormed cs
  odd_count : ∀ left right, cs = left ++ right → MeetAtNewline left right →
    left.count '<' % 2 = 1

section

variable {s t cs : List Char}

/-- Markup without newlines. -/
theorem WellFormed.guarded (h : WellFormed cs) (hnone : '\n' ∉ cs) : Guarded cs :=
  ⟨h, fun _ _ heq hmeet => absurd hmeet (not_meetAtNewline (heq ▸ hnone))⟩

/-- A guarded text does not end with a newline. -/
theorem Guarded.ne_newline_of_mem_getLast? (h : Guarded cs) : ∀ c ∈ cs.getLast?, c ≠ '\n' := by
  rintro c hc rfl
  have hodd := h.odd_count cs [] (List.append_nil cs).symm (.inl hc)
  have heven := h.wellFormed.even_count
  omega

theorem Guarded.trimEnd_eq (h : Guarded cs) : trimEnd cs = cs := by
  have htrim := trimEnd_append h.ne_newline_of_mem_getLast? []
  rwa [List.append_nil, show trimEnd [] = [] from rfl, List.append_nil] at htrim

/-- **Guarded texts can be put together.** -/
theorem Guarded.append (hs : Guarded s) (ht : Guarded t) : Guarded (s ++ t) := by
  have heven := hs.wellFormed.even_count
  -- there is no newline between the two
  have hbetween : MeetAtNewline s t → s.count '<' % 2 = 1 := by
    rintro (hlast | hhead)
    · exact hs.odd_count s [] (List.append_nil s).symm (.inl hlast)
    · cases ht.odd_count [] t rfl (.inr hhead)
  refine ⟨hs.wellFormed.append ht.wellFormed, fun left right heq hmeet => ?_⟩
  rcases List.append_eq_append_iff.mp heq with ⟨more, rfl, rfl⟩ | ⟨rest, rfl, rfl⟩
  · rw [List.count_append]
    by_cases hnil : more = []
    · have hodd := hbetween (by simpa [hnil] using hmeet)
      rw [hnil, List.count_nil]
      omega
    · have hodd := ht.odd_count more right rfl ((meetAtNewline_append_left_iff hnil).mp hmeet)
      omega
  · by_cases hnil : rest = []
    · have hodd := hbetween (by simpa [hnil] using hmeet)
      rwa [hnil, List.append_nil] at hodd
    · exact hs.odd_count left rest rfl ((meetAtNewline_append_right_iff hnil).mp hmeet)

/-- **A tag guards the newlines within it**, if no other tag begins there. -/
theorem guarded_enclose (h : WellFormed cs) (hnone : '<' ∉ cs) (t : Tag) :
    Guarded ((Token.opening t).text ++ cs ++ (Token.closing t).text) := by
  have hone : (Token.opening t).text.count '<' = 1 := by cases t <;> rfl
  have hzero : cs.count '<' = 0 := List.count_eq_zero_of_not_mem hnone
  have hopen : '\n' ∉ (Token.opening t).text := by cases t <;> decide
  have hclose : '\n' ∉ (Token.closing t).text := by cases t <;> decide
  refine ⟨h.enclose t, fun left right heq hmeet => ?_⟩
  rcases List.append_eq_append_iff.mp heq with ⟨more, rfl, hmore⟩ | ⟨rest, hrest, rfl⟩
  · by_cases hnil : more = []
    · rw [hnil, List.append_nil, List.count_append, hone, hzero]
    · rw [meetAtNewline_append_left_iff hnil] at hmeet
      exact absurd hmeet (not_meetAtNewline (hmore ▸ hclose))
  · rcases List.append_eq_append_iff.mp hrest with ⟨more, rfl, rfl⟩ | ⟨within, hwithin, rfl⟩
    · rw [List.count_append] at hzero
      rw [List.count_append, hone]
      omega
    · by_cases hnil : within = []
      · rw [hnil, List.append_nil] at hwithin
        rw [← hwithin, hone]
      · rw [List.append_assoc, meetAtNewline_append_right_iff hnil] at hmeet
        exact absurd hmeet (not_meetAtNewline (hwithin ▸ hopen))

end

end Uptime.Text
