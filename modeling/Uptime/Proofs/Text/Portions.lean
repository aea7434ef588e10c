import Uptime.Proofs.Text.Chunks
import Uptime.Proofs.Text.Markup

/-!
# Portions

A text that is too long is packed into portions, line by line, and a chunk is a portion without the
newlines at its end. So a portion ends between two lines, or between two pieces of a line. If no
line is too long without its newline, portions meet at newlines only.

## Main definitions

* `portions`: the lines of a text, packed into portions.
* `Cancellative`: what holds of a text can be told from how its portions begin and end.
* `Fits`: a line that is not too long without its newline.

## Main results

* `Cancellative.forall_chunks_iff`: what holds of all chunks holds wherever a portion ends.
* `Filling.exists_of_prefix_foldl`: portions end between two pieces.
* `meetAtNewline_of_portions_eq`: portions meet at newlines.
* `singleton_prefix_portions`: lines that fill a portion.
-/

namespace Uptime.Text

/-! ### Chunks -/

section

variable {limit : Nat} {s chunk : String}

/-- A text that fits is one chunk. -/
theorem chunks_of_le (h : s.utf8ByteSize ≤ chunkSize limit) : chunks limit s = [s] := by
  rw [utf8ByteSize_eq_byteCount] at h
  rw [chunks, chunksOf, ← chunkSize, if_pos h, List.map_singleton, String.ofList_toList]

/-- The lines of a text, packed into portions. -/
def portions (limit : Nat) (s : String) : List (List Char) :=
  ((linesOf s.toList).foldl (Filling.addLine (chunkSize limit)) {}).parts

theorem chunks_eq_portions (hlong : chunkSize limit < s.utf8ByteSize) : chunks limit s =
    (((portions limit s).map trimEnd).filter (· ≠ [])).map String.ofList :=
  chunks_of_lt hlong

/-- No chunk is too long. -/
theorem utf8ByteSize_le_of_mem_chunks (h : chunk ∈ chunks limit s) :
    chunk.utf8ByteSize ≤ chunkSize limit := by
  rcases le_or_gt s.utf8ByteSize (chunkSize limit) with hfits | hlong
  · rw [chunks_of_le hfits, List.mem_singleton] at h
    exact h ▸ hfits
  · obtain ⟨lead, placed, hplaces⟩ := exists_places (portions limit s)
    rw [chunks_eq_portions hlong, ← hplaces.chunks_eq] at h
    obtain ⟨p, hp, rfl⟩ := List.mem_map.mp h
    have hpacks := Filling.packs_foldl (Nat.le_max_right limit leastChunkSize) (linesOf s.toList)
    exact (chunked_of_places hpacks hplaces).size_le p hp

/-- A text is its only chunk exactly if it fits. -/
theorem chunks_eq_singleton_iff : chunks limit s = [s] ↔ s.utf8ByteSize ≤ chunkSize limit :=
  ⟨fun h => utf8ByteSize_le_of_mem_chunks (h ▸ List.mem_singleton_self s), chunks_of_le⟩

/-- No character is lost. -/
theorem flatten_portions (limit : Nat) (s : String) : (portions limit s).flatten = s.toList := by
  have hleast : leastChunkSize ≤ chunkSize limit := Nat.le_max_right limit leastChunkSize
  rw [portions, (Filling.packs_foldl hleast _).flatten_eq, flatten_linesOf]

end

/-! ### Filling portions -/

/-- The beginnings of two lists that are put together. -/
theorem prefix_append_cases {α : Type} {front xs ys : List α} (h : front <+: xs ++ ys) :
    front <+: xs ∨ ∃ more, more <+: ys ∧ front = xs ++ more := by
  obtain ⟨rest, hrest⟩ := h
  rcases List.append_eq_append_iff.mp hrest with ⟨more, rfl, -⟩ | ⟨more, rfl, rfl⟩
  · exact .inl (List.prefix_append _ _)
  · exact .inr ⟨more, List.prefix_append _ _, rfl⟩

theorem eq_nil_or_eq_of_prefix_singleton {α : Type} {xs : List α} {x : α} (h : xs <+: [x]) :
    xs = [] ∨ xs = [x] := by
  rcases List.prefix_cons_iff.mp h with rfl | ⟨rest, rfl, hrest⟩
  · exact .inl rfl
  · exact .inr (by rw [List.prefix_nil.mp hrest])

namespace Filling

variable {limit : Nat} {f : Filling} {line : List Char} {front lines : List (List Char)}

/-- Lines for which there is room join the current part. -/
theorem foldl_addLine_of_le (h : byteCount f.current + byteCount lines.flatten ≤ limit) :
    lines.foldl (addLine limit) f = ⟨f.full, f.current ++ lines.flatten⟩ := by
  induction lines generalizing f with
  | nil => simp
  | cons line lines ih =>
    rw [List.flatten_cons, byteCount_append] at h
    have hjoins : f.addLine limit line = ⟨f.full, f.current ++ line⟩ := by
      rw [addLine, if_neg (fun hlong => by omega), piecesOf_of_le (by omega)]
      simp
    rw [List.foldl_cons, hjoins, ih (by rw [byteCount_append]; omega), List.flatten_cons,
      List.append_assoc]

/-- Parts that are complete stay as they are. -/
theorem full_prefix_foldl (lines : List (List Char)) (f : Filling) :
    f.full <+: (lines.foldl (addLine limit) f).full := by
  induction lines generalizing f with
  | nil => exact List.prefix_rfl
  | cons line lines ih =>
    refine List.IsPrefix.trans ?_ (ih (f.addLine limit line))
    rw [addLine]
    split <;> simp [flush, List.append_assoc]

/-- Where the parts end when a line has been added: where they ended before, or between two pieces of
the line. -/
theorem exists_of_prefix_addLine (hlimit : leastChunkSize ≤ limit)
    (h : front <+: (f.addLine limit line).parts) :
    (∃ earlier, earlier <+: f.parts ∧ front.flatten = earlier.flatten) ∨
      ∃ pieces, pieces <+: piecesOf limit limit line ∧
        front.flatten = f.parts.flatten ++ pieces.flatten := by
  have hcuts := cuts_piecesOf hlimit line
  rw [parts, addLine] at h
  generalize piecesOf limit limit line = pieces at hcuts h ⊢
  obtain ⟨init, last, rfl⟩ := (List.eq_nil_or_concat' pieces).resolve_left hcuts.ne_nil
  have hends : (init ++ [last]).dropLast = init ∧ (init ++ [last]).getLast?.getD [] = last := by simp
  rw [hends.1, hends.2] at h
  by_cases hflush : f.current ≠ [] ∧ limit < byteCount f.current + byteCount line
  · -- the current part is complete
    rw [if_pos hflush, flush, List.nil_append, List.append_assoc] at h
    rcases prefix_append_cases h with hfull | ⟨more, hmore, rfl⟩
    · exact .inl ⟨front, hfull, rfl⟩
    · exact .inr ⟨more, hmore, List.flatten_append⟩
  rw [if_neg hflush, List.append_assoc] at h
  by_cases hcurrent : f.current = []
  · -- the line begins a part
    rw [hcurrent, List.nil_append] at h
    rcases prefix_append_cases h with hfull | ⟨more, hmore, rfl⟩
    · exact .inl ⟨front, hfull.trans (List.prefix_append _ _), rfl⟩
    · exact .inr ⟨more, hmore, by simp [parts, hcurrent]⟩
  · -- the line joins the current part
    have hjoins : byteCount f.current + byteCount line ≤ limit :=
      not_lt.mp fun hlong => hflush ⟨hcurrent, hlong⟩
    have hline := hcuts.eq_singleton ((Nat.le_add_left _ _).trans hjoins)
    rw [← List.nil_append [line]] at hline
    obtain ⟨rfl, hlast⟩ := List.append_inj' hline rfl
    obtain rfl := List.singleton_inj.mp hlast
    rw [List.nil_append] at h
    rcases prefix_append_cases h with hfull | ⟨more, hmore, rfl⟩
    · exact .inl ⟨front, hfull.trans (List.prefix_append _ _), rfl⟩
    · rcases eq_nil_or_eq_of_prefix_singleton hmore with rfl | rfl
      · exact .inl ⟨f.full, List.prefix_append _ _, by simp⟩
      · exact .inr ⟨[last], List.prefix_rfl, by simp [parts]⟩

/-- **Portions end between two pieces** of a line. -/
theorem exists_of_prefix_foldl (hlimit : leastChunkSize ≤ limit)
    (h : front <+: (lines.foldl (addLine limit) {}).parts) :
    front.flatten = [] ∨ ∃ before line after pieces, lines = before ++ line :: after ∧
      pieces <+: piecesOf limit limit line ∧ front.flatten = before.flatten ++ pieces.flatten := by
  induction lines using List.reverseRecOn generalizing front with
  | nil =>
    left
    rcases eq_nil_or_eq_of_prefix_singleton (h : front <+: [[]]) with rfl | rfl <;> rfl
  | append_singleton lines line ih =>
    rw [List.foldl_append] at h
    rcases exists_of_prefix_addLine hlimit h with ⟨earlier, hearlier, heq⟩ | ⟨pieces, hpieces, heq⟩
    · rw [heq]
      refine (ih hearlier).imp_right ?_
      rintro ⟨before, line', after, pieces, rfl, hpieces, heq⟩
      exact ⟨before, line', after ++ [line], pieces, by simp, hpieces, heq⟩
    · rw [(packs_foldl hlimit lines).flatten_eq] at heq
      exact .inr ⟨lines, line, [], pieces, rfl, hpieces, heq⟩

end Filling

theorem byteCount_pos {cs : List Char} (h : cs ≠ []) : 0 < byteCount cs := by
  cases cs with
  | nil => exact absurd rfl h
  | cons c cs =>
    have hsize := c.utf8Size_pos
    rw [byteCount_cons]
    omega

theorem ne_nil_of_mem_linesOf {cs line : List Char} (h : line ∈ linesOf cs) : line ≠ [] := by
  induction cs generalizing line with
  | nil => cases h
  | cons c cs ih =>
    rw [linesOf] at h
    split at h
    · rcases List.mem_cons.mp h with rfl | h
      · simp
      · exact ih h
    · cases hlines : linesOf cs with
      | nil =>
        rw [hlines] at h
        simp [List.mem_singleton.mp h]
      | cons first rest =>
        rw [hlines] at h ih
        rcases List.mem_cons.mp h with rfl | h
        · simp
        · exact ih (List.mem_cons_of_mem _ h)

section

variable {limit : Nat} {s : String}

/-- A text that fits is one portion. -/
theorem portions_of_le (h : s.utf8ByteSize ≤ chunkSize limit) : portions limit s = [s.toList] := by
  rw [utf8ByteSize_eq_byteCount] at h
  rw [portions, Filling.foldl_addLine_of_le (by simpa using h)]
  simp [Filling.parts]

/-- **Lines that fill a portion** are the first one, if anything follows. -/
theorem singleton_prefix_portions {before after : List Char} (hs : s.toList = before ++ after)
    (hlast : ∀ c ∈ before.getLast?, c = '\n') (hafter : after ≠ [])
    (hfull : byteCount before = chunkSize limit) : [before] <+: portions limit s := by
  obtain ⟨line, lines, hlines⟩ := List.exists_cons_of_ne_nil (linesOf_ne_nil hafter)
  have hfill : (linesOf before).foldl (Filling.addLine (chunkSize limit)) {} = ⟨[], before⟩ := by
    rw [Filling.foldl_addLine_of_le (by simp [hfull])]
    simp
  have hbefore : before ≠ [] := by
    rintro rfl
    exact absurd hfull (Nat.ne_of_lt (Nat.lt_of_lt_of_le (by decide) (Nat.le_max_right limit _)))
  have hline : 0 < byteCount line := byteCount_pos (ne_nil_of_mem_linesOf (hlines ▸ List.mem_cons_self))
  -- the line behind them completes the portion
  have hnext : [before] <+: (Filling.addLine (chunkSize limit) ⟨[], before⟩ line).full := by
    rw [Filling.addLine, if_pos ⟨hbefore, by dsimp only; omega⟩]
    exact List.prefix_append _ _
  rw [portions, hs, linesOf_append hlast, List.foldl_append, hfill, hlines, List.foldl_cons]
  exact hnext.trans ((Filling.full_prefix_foldl _ _).trans (List.prefix_append _ _))

end

/-! ### Newlines where portions end -/

section

variable {m : Nat} {content line row : List Char}

/-- A line of at most `m` bytes without its newline. -/
def Fits (m : Nat) (line : List Char) : Prop :=
  ∃ content, byteCount content ≤ m ∧ (line = content ∨ line = content ++ ['\n'])

/-- A line that is too long only by its newline is cut before it. -/
theorem piecesOf_append_newline (m : Nat) (content : List Char) :
    piecesOf m (byteCount content) (content ++ ['\n']) = [content, ['\n']] := by
  induction content with
  | nil => rfl
  | cons c content ih =>
    rw [List.cons_append, piecesOf, byteCount_cons, if_pos (Nat.le_add_right _ _),
      Nat.add_sub_cancel_left, ih]
    rfl

/-- A line that fits is cut at its newline if at all. -/
theorem Fits.flatten_of_prefix (h : Fits m line) {pieces : List (List Char)}
    (hpieces : pieces <+: piecesOf m m line) :
    pieces.flatten = [] ∨ pieces.flatten = line ∨ pieces.flatten ++ ['\n'] = line := by
  have hwhole : piecesOf m m line = [line] → pieces.flatten = [] ∨ pieces.flatten = line := by
    intro hone
    rw [hone] at hpieces
    rcases eq_nil_or_eq_of_prefix_singleton hpieces with rfl | rfl
    · exact .inl rfl
    · exact .inr (by simp)
  obtain ⟨content, hfits, rfl | rfl⟩ := h
  · exact (hwhole (piecesOf_of_le hfits)).imp_right .inl
  rcases le_or_gt (byteCount (content ++ ['\n'])) m with hline | hline
  · exact (hwhole (piecesOf_of_le hline)).imp_right .inl
  · have hsize : byteCount ['\n'] = 1 := rfl
    rw [byteCount_append, hsize] at hline
    obtain rfl : byteCount content = m := by omega
    rw [piecesOf_append_newline] at hpieces
    rcases List.prefix_cons_iff.mp hpieces with rfl | ⟨rest, rfl, hrest⟩
    · exact .inl rfl
    rcases eq_nil_or_eq_of_prefix_singleton hrest with rfl | rfl
    · exact .inr (.inr (by simp))
    · exact .inr (.inl (by simp))

/-- Only the last line may have no newline. -/
theorem getLast?_of_linesOf_eq {cs : List Char} {before after : List (List Char)}
    (h : linesOf cs = before ++ after) (hafter : after ≠ []) :
    ∀ line ∈ before, line.getLast? = some '\n' := by
  induction cs generalizing before with
  | nil =>
    obtain ⟨-, rfl⟩ := List.append_eq_nil_iff.mp h.symm
    exact absurd rfl hafter
  | cons c cs ih =>
    cases before with
    | nil => simp
    | cons first before =>
      rw [linesOf] at h
      split at h
      · next hc =>
        obtain ⟨rfl, hrest⟩ := List.cons_eq_cons.mp h
        exact List.forall_mem_cons.mpr ⟨by rw [hc]; rfl, ih hrest⟩
      · cases hlines : linesOf cs with
        | nil =>
          rw [hlines] at h
          obtain ⟨-, hnone⟩ := List.cons_eq_cons.mp h
          exact absurd (List.append_eq_nil_iff.mp hnone.symm).2 hafter
        | cons line rest =>
          rw [hlines] at h
          obtain ⟨rfl, rfl⟩ := List.cons_eq_cons.mp h
          have hends : ∀ l ∈ line :: before, l.getLast? = some '\n' := ih hlines
          obtain ⟨hline, hbefore⟩ := List.forall_mem_cons.mp hends
          refine List.forall_mem_cons.mpr ⟨?_, hbefore⟩
          rw [List.getLast?_cons, hline]
          rfl

/-- **Portions meet at newlines** if all lines fit. -/
theorem meetAtNewline_of_portions_eq {limit : Nat} {s : String} {front back : List (List Char)}
    (hlines : ∀ line ∈ linesOf s.toList, Fits (chunkSize limit) line)
    (h : portions limit s = front ++ back) (hfront : front.flatten ≠ []) (hback : back.flatten ≠ []) :
    MeetAtNewline front.flatten back.flatten := by
  have htext := flatten_portions limit s
  rw [h, List.flatten_append, ← flatten_linesOf s.toList] at htext
  have hprefix : front <+: portions limit s := ⟨back, h.symm⟩
  have hleast : leastChunkSize ≤ chunkSize limit := Nat.le_max_right limit leastChunkSize
  obtain ⟨before, line, after, pieces, hsplit, hpieces, hend⟩ :=
    (Filling.exists_of_prefix_foldl hleast hprefix).resolve_left hfront
  have hends : ∀ earlier later, linesOf s.toList = earlier ++ later → later ≠ [] →
      front.flatten = earlier.flatten → MeetAtNewline front.flatten back.flatten := by
    intro earlier later hlines hlater heq
    obtain rfl | ⟨init, last, rfl⟩ := List.eq_nil_or_concat' earlier
    · exact absurd heq hfront
    · have hlast := getLast?_of_linesOf_eq hlines hlater last (by simp)
      refine .inl ?_
      have hne : last ≠ [] := by
        rintro rfl
        cases hlast
      rw [heq, List.flatten_append, List.flatten_singleton, List.getLast?_append_of_ne_nil _ hne,
        hlast]
  have hline : Fits (chunkSize limit) line := hlines line (by rw [hsplit]; simp)
  rcases hline.flatten_of_prefix hpieces with hnone | hall | hnewline
  · rw [hnone, List.append_nil] at hend
    exact hends before (line :: after) hsplit (List.cons_ne_nil _ _) hend
  · refine hends (before ++ [line]) after (by simp [hsplit]) ?_ (by simp [hend, hall])
    rintro rfl
    rw [hend, hall, hsplit] at htext
    exact hback (by simpa using htext)
  · have hrest : back.flatten = '\n' :: after.flatten := by
      rw [hend, hsplit, ← hnewline] at htext
      simpa using htext
    exact .inr (by rw [hrest]; rfl)

end

/-! ### From texts to chunks -/

/-- A property of texts that is kept where texts are put together and where they are taken apart,
and that does not depend on newlines at the end. -/
structure Cancellative (P : List Char → Prop) : Prop where
  nil : P []
  append : ∀ s t, P s → P t → P (s ++ t)
  of_append_left : ∀ s t, P s → P (s ++ t) → P t
  append_newline_iff : ∀ cs, P (cs ++ ['\n']) ↔ P cs

theorem cancellative_wellFormed : Cancellative WellFormed where
  nil := wellFormed_nil
  append _ _ := WellFormed.append
  of_append_left _ _ := WellFormed.of_append_left
  append_newline_iff _ :=
    ⟨WellFormed.of_append_newline, fun h => h.append (wellFormed_of_plain (by decide))⟩

theorem cancellative_whole : Cancellative Whole where
  nil := wellFormed_nil.whole
  append _ _ := Whole.append
  of_append_left _ _ := Whole.of_append_left
  append_newline_iff _ :=
    ⟨fun h => h.of_append (.inr rfl), fun h => h.append (wellFormed_of_plain (by decide)).whole⟩

namespace Cancellative

variable {P : List Char → Prop} {limit : Nat} {s : String}

theorem trimEnd_iff (hP : Cancellative P) (cs : List Char) : P (Text.trimEnd cs) ↔ P cs := by
  have hleave : ∀ n, P (Text.trimEnd cs ++ newlines n) ↔ P (Text.trimEnd cs) := by
    intro n
    induction n with
    | zero => simp
    | succ n ih =>
      rw [newlines_add, ← List.append_assoc, ← ih]
      exact hP.append_newline_iff _
  obtain ⟨n, heq⟩ := exists_trimEnd_append cs
  rw [← hleave n, heq]

theorem flatten (hP : Cancellative P) {parts : List (List Char)} (h : ∀ part ∈ parts, P part) :
    P parts.flatten := by
  induction parts with
  | nil => exact hP.nil
  | cons part parts ih =>
    obtain ⟨hpart, hparts⟩ := List.forall_mem_cons.mp h
    exact hP.append part _ hpart (ih hparts)

/-- What holds of all parts holds wherever one of them ends, and conversely. -/
theorem forall_iff (hP : Cancellative P) (parts : List (List Char)) :
    (∀ part ∈ parts, P part) ↔ ∀ front, front <+: parts → P front.flatten := by
  constructor
  · exact fun h front hfront => hP.flatten fun part hpart => h part (hfront.subset hpart)
  · intro h part hpart
    obtain ⟨front, back, rfl⟩ := List.append_of_mem hpart
    have hwith := h (front ++ [part]) ⟨back, by simp⟩
    rw [List.flatten_append, List.flatten_singleton] at hwith
    exact hP.of_append_left _ _ (h front (List.prefix_append _ _)) hwith

/-- **What holds of all chunks** holds wherever a portion ends, and conversely. -/
theorem forall_chunks_iff (hP : Cancellative P) : (∀ chunk ∈ chunks limit s, P chunk.toList) ↔
    ∀ front, front <+: portions limit s → P front.flatten := by
  rw [← hP.forall_iff]
  rcases le_or_gt s.utf8ByteSize (chunkSize limit) with hfits | hlong
  · rw [chunks_of_le hfits, portions_of_le hfits]
    simp
  · rw [chunks_eq_portions hlong]
    simp only [List.forall_mem_map, String.toList_ofList, List.mem_filter, and_imp, decide_eq_true_eq]
    refine forall₂_congr fun part _ => ?_
    rw [hP.trimEnd_iff]
    refine ⟨fun h => ?_, fun h _ => h⟩
    by_cases hnone : Text.trimEnd part = []
    · exact (hP.trimEnd_iff part).mp (hnone ▸ hP.nil)
    · exact h hnone

end Cancellative

end Uptime.Text
