import Uptime.Proofs.Text.Portions

/-!
# Texts in rows

A message is written in rows with newlines between them, and some rows may have newlines inside. A
portion of it ends where a row does, or within a row that has a newline there. In the latter case a
tag is left open if newlines stand within tags only. So all chunks are well-formed exactly if no
portion ends within a row.

## Main definitions

* `rowsText`: rows with newlines between them.
* `DividesRow`: a beginning of such a text that ends within a row.

## Main results

* `rowsText_concat`, `rowsText_append`, `rowsText_flatten`: how rows are put together.
* `exists_row_of_append_eq`: every beginning of a text in rows ends in one of them.
* `whole_chunks_of_rows`: no chunk cuts a tag or an entity.
* `wellFormed_chunks_iff`: all chunks are well-formed if no portion ends within a row.
-/

namespace Uptime.Text

/-! ### Rows -/

/-- Rows with newlines between them. -/
def rowsText (rows : List (List Char)) : List Char := ['\n'].intercalate rows

theorem rowsText_singleton (row : List Char) : rowsText [row] = row := by
  simp [rowsText]

theorem rowsText_cons_cons (row next : List Char) (rows : List (List Char)) :
    rowsText (row :: next :: rows) = row ++ '\n' :: rowsText (next :: rows) := by
  simp [rowsText, List.intercalate]

/-- There is a newline in front of every row but the first. -/
theorem rowsText_cons (row : List Char) (rows : List (List Char)) :
    rowsText (row :: rows) = row ++ rows.flatMap ('\n' :: ·) := by
  induction rows generalizing row with
  | nil => simp [rowsText_singleton]
  | cons next rows ih => rw [rowsText_cons_cons, ih, List.flatMap_cons, List.cons_append]

/-- There is one behind every row but the last. -/
theorem rowsText_concat (rows : List (List Char)) (row : List Char) :
    rowsText (rows ++ [row]) = rows.flatMap (· ++ ['\n']) ++ row := by
  induction rows with
  | nil => exact rowsText_singleton row
  | cons first rows ih =>
    obtain ⟨next, rest, hrest⟩ := List.exists_cons_of_ne_nil (l := rows ++ [row]) (by simp)
    rw [List.cons_append, hrest, rowsText_cons_cons, ← hrest, ih, List.flatMap_cons,
      List.append_assoc, List.append_assoc, List.singleton_append]

theorem rowsText_append {rows more : List (List Char)} (hrows : rows ≠ []) (hmore : more ≠ []) :
    rowsText (rows ++ more) = rowsText rows ++ '\n' :: rowsText more := by
  obtain ⟨row, rows, rfl⟩ := List.exists_cons_of_ne_nil hrows
  obtain ⟨next, more, rfl⟩ := List.exists_cons_of_ne_nil hmore
  simp [rowsText_cons]

/-- Rows may be put together in groups first. -/
theorem rowsText_flatten {groups : List (List (List Char))} (h : ∀ group ∈ groups, group ≠ []) :
    rowsText (groups.map rowsText) = rowsText groups.flatten := by
  induction groups with
  | nil => rfl
  | cons group groups ih =>
    obtain ⟨hgroup, hgroups⟩ := List.forall_mem_cons.mp h
    cases groups with
    | nil => simp [rowsText_singleton]
    | cons next rest =>
      have hne : (next :: rest).flatten ≠ [] := by
        simp [(List.forall_mem_cons.mp hgroups).1]
      rw [List.flatten_cons, rowsText_append hgroup hne, ← ih hgroups]
      exact rowsText_cons_cons _ _ _

theorem wellFormed_rowsText {rows : List (List Char)} (h : ∀ row ∈ rows, WellFormed row) :
    WellFormed (rowsText rows) := by
  cases rows with
  | nil => exact wellFormed_nil
  | cons row rows =>
    obtain ⟨hrow, hrows⟩ := List.forall_mem_cons.mp h
    have hnewline : WellFormed ['\n'] := wellFormed_of_plain (by decide)
    rw [rowsText_cons, List.flatMap_def]
    refine hrow.append (cancellative_wellFormed.flatten (List.forall_mem_map.mpr fun next hnext => ?_))
    exact hnewline.append (hrows next hnext)

/-- Rows of which the last one leaves a tag open. -/
theorem not_wellFormed_rowsText {before : List (List Char)} {left : List Char}
    (hbefore : ∀ row ∈ before, WellFormed row) (hodd : left.count '<' % 2 = 1) :
    ¬ WellFormed (rowsText (before ++ [left])) := by
  intro h
  have hrows : WellFormed (rowsText (before ++ [[]])) := wellFormed_rowsText
    (List.forall_mem_append.mpr ⟨hbefore, List.forall_mem_singleton.mpr wellFormed_nil⟩)
  have heven := h.even_count
  have heven' := hrows.even_count
  rw [rowsText_concat, List.append_nil] at heven'
  rw [rowsText_concat, List.count_append] at heven
  omega

/-- What holds of the lines of each row holds of all lines. -/
theorem forall_linesOf_rowsText {Q : List Char → Prop} {rows : List (List Char)}
    (h : ∀ row ∈ rows, (∀ line ∈ linesOf row, Q line) ∧ ∀ line ∈ linesOf (row ++ ['\n']), Q line) :
    ∀ line ∈ linesOf (rowsText rows), Q line := by
  induction rows with
  | nil => simp [rowsText, linesOf]
  | cons row rows ih =>
    obtain ⟨hrow, hrows⟩ := List.forall_mem_cons.mp h
    cases rows with
    | nil =>
      rw [rowsText_singleton]
      exact hrow.1
    | cons next rows =>
      have hnewline : row ++ '\n' :: rowsText (next :: rows) =
          (row ++ ['\n']) ++ rowsText (next :: rows) := by simp
      rw [rowsText_cons_cons, hnewline, linesOf_append (by simp)]
      exact List.forall_mem_append.mpr ⟨hrow.2, ih hrows⟩

/-- **Every beginning of a text in rows ends in one of them**, or where one ends. -/
theorem exists_row_of_append_eq {rows : List (List Char)} {front back : List Char} (hne : rows ≠ [])
    (h : rowsText rows = front ++ back) : ∃ before left right after,
      rows = before ++ (left ++ right) :: after ∧ front = rowsText (before ++ [left]) ∧
        back = rowsText (right :: after) := by
  induction rows generalizing front with
  | nil => exact absurd rfl hne
  | cons row rows ih =>
    cases rows with
    | nil =>
      rw [rowsText_singleton] at h
      exact ⟨[], front, back, [], by rw [h]; rfl, (rowsText_singleton front).symm,
        (rowsText_singleton back).symm⟩
    | cons next rows =>
      rw [rowsText_cons_cons] at h
      rcases List.append_eq_append_iff.mp h with ⟨more, rfl, hmore⟩ | ⟨right, rfl, rfl⟩
      · cases more with
        | nil =>
          refine ⟨[], row, [], next :: rows, by simp, by simp [rowsText_singleton], ?_⟩
          rw [rowsText_cons_cons]
          exact hmore.symm
        | cons c more =>
          rw [List.cons_append] at hmore
          obtain ⟨rfl, hrest⟩ := List.cons_eq_cons.mp hmore
          obtain ⟨before, left, right, after, hrows, rfl, hback⟩ := ih (List.cons_ne_nil _ _) hrest
          refine ⟨row :: before, left, right, after, by rw [hrows]; rfl, ?_, hback⟩
          obtain ⟨second, rest, hsecond⟩ := List.exists_cons_of_ne_nil (l := before ++ [left]) (by simp)
          rw [List.cons_append, hsecond, rowsText_cons_cons]
      · exact ⟨[], front, right, next :: rows, rfl, (rowsText_singleton front).symm,
          (rowsText_cons_cons right next rows).symm⟩

/-- A text in rows that is taken apart in one of them. -/
theorem rowsText_append_cons (before after : List (List Char)) (left right : List Char) :
    rowsText (before ++ (left ++ right) :: after) =
      rowsText (before ++ [left]) ++ rowsText (right :: after) := by
  by_cases hne : before = []
  · simp [hne, rowsText_cons]
  · rw [rowsText_append hne (List.cons_ne_nil _ _), rowsText_append hne (List.cons_ne_nil _ _),
      rowsText_cons (left ++ right), rowsText_cons right, rowsText_singleton]
    simp

/-- The beginning of a text in rows ends within a row. -/
def DividesRow (rows : List (List Char)) (front : List Char) : Prop :=
  ∃ before left right after, rows = before ++ (left ++ right) :: after ∧ left ≠ [] ∧ right ≠ [] ∧
    front = rowsText (before ++ [left])

/-! ### Chunks of rows -/

section

variable {m : Nat} {line row : List Char}

theorem byteCount_le_of_mem {parts : List (List Char)} (h : line ∈ parts) :
    byteCount line ≤ byteCount parts.flatten := by
  obtain ⟨earlier, later, rfl⟩ := List.append_of_mem h
  simp only [List.flatten_append, List.flatten_cons, byteCount_append]
  omega

/-- Every line of a text that ends with a newline does so, too. -/
theorem exists_of_mem_linesOf (h : line ∈ linesOf (row ++ ['\n'])) :
    ∃ content, line = content ++ ['\n'] := by
  induction row generalizing line with
  | nil =>
    obtain rfl : line = ['\n'] := List.mem_singleton.mp h
    exact ⟨[], rfl⟩
  | cons c row ih =>
    rw [List.cons_append, linesOf] at h
    split at h
    · next hc =>
      rcases List.mem_cons.mp h with rfl | h
      · exact ⟨[], hc ▸ rfl⟩
      · exact ih h
    · have hne : linesOf (row ++ ['\n']) ≠ [] := linesOf_ne_nil (by simp)
      obtain ⟨first, rest, hlines⟩ := List.exists_cons_of_ne_nil hne
      rw [hlines] at h ih
      rcases List.mem_cons.mp h with rfl | h
      · obtain ⟨content, rfl⟩ := ih List.mem_cons_self
        exact ⟨c :: content, rfl⟩
      · exact ih (List.mem_cons_of_mem _ h)

/-- The lines of a row that fits do so, whether or not another row follows. -/
theorem fits_of_mem_linesOf (hrow : byteCount row ≤ m) :
    (∀ line ∈ linesOf row, Fits m line) ∧ ∀ line ∈ linesOf (row ++ ['\n']), Fits m line := by
  constructor
  · intro line hline
    have hsize := byteCount_le_of_mem hline
    rw [flatten_linesOf] at hsize
    exact ⟨line, hsize.trans hrow, .inl rfl⟩
  · intro line hline
    have hsize := byteCount_le_of_mem hline
    obtain ⟨content, rfl⟩ := exists_of_mem_linesOf hline
    rw [flatten_linesOf, byteCount_append, byteCount_append, Nat.add_le_add_iff_right] at hsize
    exact ⟨content, hsize.trans hrow, .inr rfl⟩

end

section

variable {limit : Nat} {s : String} {rows : List (List Char)} {front : List (List Char)}

/-- Portions of rows that fit meet at newlines. -/
theorem meetAtNewline_of_rows (hs : s.toList = rowsText rows)
    (hrows : ∀ row ∈ rows, byteCount row ≤ chunkSize limit) {back : List (List Char)}
    (h : portions limit s = front ++ back) (hfront : front.flatten ≠ []) (hback : back.flatten ≠ []) :
    MeetAtNewline front.flatten back.flatten :=
  meetAtNewline_of_portions_eq (hs ▸ forall_linesOf_rowsText fun row hrow =>
    fits_of_mem_linesOf (hrows row hrow)) h hfront hback

/-- **No chunk of rows that fit cuts a tag or an entity.** -/
theorem whole_chunks_of_rows (hs : s.toList = rowsText rows)
    (hrows : ∀ row ∈ rows, WellFormed row ∧ byteCount row ≤ chunkSize limit) :
    ∀ chunk ∈ chunks limit s, Whole chunk.toList := by
  refine cancellative_whole.forall_chunks_iff.mpr ?_
  rintro front ⟨back, h⟩
  have htext := flatten_portions limit s
  rw [← h, List.flatten_append, hs] at htext
  have hwhole : Whole (front.flatten ++ back.flatten) :=
    htext ▸ (wellFormed_rowsText fun row hrow => (hrows row hrow).1).whole
  by_cases hfront : front.flatten = []
  · exact hfront ▸ cancellative_whole.nil
  by_cases hback : back.flatten = []
  · rwa [hback, List.append_nil] at hwhole
  exact hwhole.of_append (meetAtNewline_of_rows hs (fun row hrow => (hrows row hrow).2) h.symm
    hfront hback)

section

variable (hs : s.toList = rowsText rows) (hrows : ∀ row ∈ rows, byteCount row ≤ chunkSize limit)

include hs hrows

/-- **A portion that ends within a row does so at a newline.** -/
theorem meetAtNewline_of_prefix_portions (h : front <+: portions limit s)
    {before after : List (List Char)} {left right : List Char}
    (hsplit : rows = before ++ (left ++ right) :: after) (hleft : left ≠ []) (hright : right ≠ [])
    (hfront : front.flatten = rowsText (before ++ [left])) : MeetAtNewline left right := by
  obtain ⟨back, h⟩ := h
  have htext := flatten_portions limit s
  rw [← h, List.flatten_append, hs, hsplit, rowsText_append_cons, hfront] at htext
  have hback := List.append_cancel_left htext
  have hmeet := meetAtNewline_of_rows hs hrows h.symm
  rw [hfront, hback, rowsText_concat, rowsText_cons, meetAtNewline_append_left_iff hleft,
    meetAtNewline_append_right_iff hright] at hmeet
  exact hmeet (by simp [hleft]) (by simp [hright])

/-- So the row has a newline. -/
theorem newline_mem_of_dividesRow (h : front <+: portions limit s)
    (hdivides : DividesRow rows front.flatten) : ∃ row ∈ rows, '\n' ∈ row := by
  obtain ⟨before, left, right, after, hsplit, hleft, hright, hfront⟩ := hdivides
  refine ⟨left ++ right, by simp [hsplit], ?_⟩
  by_contra hnone
  exact not_meetAtNewline hnone
    (meetAtNewline_of_prefix_portions hs hrows h hsplit hleft hright hfront)

end

/-- A text that fits is not divided. -/
theorem lt_of_dividesRow (hs : s.toList = rowsText rows) (h : front <+: portions limit s)
    (hdivides : DividesRow rows front.flatten) : chunkSize limit < s.utf8ByteSize := by
  obtain ⟨before, left, right, after, rfl, hleft, hright, hfront⟩ := hdivides
  by_contra hfits
  rw [portions_of_le (not_lt.mp hfits)] at h
  rcases eq_nil_or_eq_of_prefix_singleton h with rfl | rfl
  · rw [rowsText_concat] at hfront
    exact hleft (List.append_eq_nil_iff.mp hfront.symm).2
  · rw [List.flatten_singleton, hs, rowsText_append_cons, List.append_right_eq_self, rowsText_cons]
      at hfront
    exact hright (List.append_eq_nil_iff.mp hfront).1

/-- **All chunks are well-formed** exactly if no portion ends within a row. -/
theorem wellFormed_chunks_iff (hs : s.toList = rowsText rows) (hne : rows ≠ [])
    (hrows : ∀ row ∈ rows, Guarded row ∧ byteCount row ≤ chunkSize limit) :
    (∀ chunk ∈ chunks limit s, WellFormed chunk.toList) ↔
      ∀ front, front <+: portions limit s → ¬ DividesRow rows front.flatten := by
  have hformed : ∀ row ∈ rows, WellFormed row := fun row hrow => (hrows row hrow).1.wellFormed
  rw [cancellative_wellFormed.forall_chunks_iff]
  refine forall₂_congr fun front hfront => ⟨?_, fun hnone => ?_⟩
  · rintro hwell ⟨before, left, right, after, hsplit, hleft, hright, heq⟩
    have hmeet := meetAtNewline_of_prefix_portions hs (fun row hrow => (hrows row hrow).2) hfront
      hsplit hleft hright heq
    have hodd := (hrows (left ++ right) (by simp [hsplit])).1.odd_count left right rfl hmeet
    rw [heq] at hwell
    exact not_wellFormed_rowsText (fun row hrow => hformed row (hsplit ▸ List.mem_append_left _ hrow))
      hodd hwell
  · obtain ⟨back, h⟩ := hfront
    have htext := flatten_portions limit s
    rw [← h, List.flatten_append, hs] at htext
    obtain ⟨before, left, right, after, rfl, heq, -⟩ := exists_row_of_append_eq hne htext.symm
    rw [heq]
    refine wellFormed_rowsText (List.forall_mem_append.mpr
      ⟨fun row hrow => hformed row (List.mem_append_left _ hrow), List.forall_mem_singleton.mpr ?_⟩)
    -- the last row is there as a whole or not at all
    by_cases hleft : left = []
    · exact hleft ▸ wellFormed_nil
    by_cases hright : right = []
    · exact hformed left (by simp [hright])
    exact absurd ⟨before, left, right, after, rfl, hleft, hright, heq⟩ hnone

end

end Uptime.Text
