import Mathlib.Data.List.Chain
import Uptime.Chat.LogReply
import Uptime.Proofs.Text.Inline
import Uptime.Proofs.Text.Rows

/-!
# Rows in replies about the check log

The lines of the rows are packed into bodies one after the other, so that every body takes as many
lines as there is room for. Each body is escaped and becomes a message of its own.

## Main definitions

* `LogReply.rowText`: the line of a row, without its newline.
* `LogReply.bodyText`: the lines of some rows.
* `LogReply.Packed`: rows in groups, each as large as it may be.
* `LogReply.Shows`: how messages show some rows.

## Main results

* `LogReply.exists_packed`: how lines are packed into bodies.
* `LogReply.exists_render_eq`: the messages that show some rows.
* `LogReply.shown_render`: every row is shown exactly once.
-/

namespace Uptime.LogReply

open Text

/-! ### Lines -/

/-- The line of a row, without its newline. -/
def rowText (r : Row) : List Char :=
  (r.checkedAt.text ++ "  " ++ leftAligned 4 r.status.word ++ "  "
    ++ leftAligned 21 r.endpoint ++ "  " ++ r.reason).toList

theorem rowLine_eq (r : Row) : rowLine r = rowText r ++ ['\n'] := by
  rw [rowLine, String.toList_append]
  rfl

theorem newline_mem_leftAligned_iff {width : Nat} {s : String} :
    '\n' ∈ (leftAligned width s).toList ↔ '\n' ∈ s.toList := by
  simp [leftAligned]

/-- A newline in a line comes from the address or the reason. -/
theorem newline_mem_rowText_iff {r : Row} :
    '\n' ∈ rowText r ↔ '\n' ∈ r.address.toList ∨ '\n' ∈ r.reason.toList := by
  have htime : '\n' ∉ r.checkedAt.text.toList := fun h => (r.checkedAt.inline_text _ h).2 rfl
  have hword : '\n' ∉ r.status.word.toList := by cases r.status <;> decide
  have hport : '\n' ∉ (toString r.port.toNat).toList := fun h => (inline_toString _ _ h).2 rfl
  have hgap : '\n' ∉ "  ".toList := by decide
  have hcolon : '\n' ∉ ":".toList := by decide
  simp only [rowText, Row.endpoint, String.toList_append, List.mem_append,
    newline_mem_leftAligned_iff, htime, hword, hport, hgap, hcolon, or_false, false_or]

theorem rowText_ne_nil (r : Row) : rowText r ≠ [] := by
  simp [rowText]

/-! ### Bodies -/

/-- The lines of some rows. -/
def bodyText (rows : List Row) : List Char := rowsText (rows.map rowText)

/-- The bytes that the lines of some rows take, with the last newline. -/
def bodySize (rows : List Row) : Nat := byteCount (bodyText rows ++ ['\n'])

section

variable {limit : Nat} {rows group : List Row} {groups : List (List Row)}

theorem flatMap_rowLine (hne : rows ≠ []) : rows.flatMap rowLine = bodyText rows ++ ['\n'] := by
  obtain rfl | ⟨init, last, rfl⟩ := List.eq_nil_or_concat' rows
  · exact absurd rfl hne
  · have hlines : rowLine = fun r => rowText r ++ ['\n'] := funext rowLine_eq
    rw [bodyText, List.map_append, List.map_singleton, rowsText_concat, hlines]
    simp [List.flatMap_map]

/-- The newline at the end of a body is left out, and only that. -/
theorem trimEnd_flatMap_rowLine (hne : rows ≠ []) (hrows : ∀ r ∈ rows, '\n' ∉ rowText r) :
    trimEnd (rows.flatMap rowLine) = bodyText rows := by
  have hlast : ∀ c ∈ (bodyText rows).getLast?, c ≠ '\n' := by
    obtain rfl | ⟨init, last, rfl⟩ := List.eq_nil_or_concat' rows
    · exact absurd rfl hne
    · rintro c hc rfl
      rw [bodyText, List.map_append, List.map_singleton, rowsText_concat,
        List.getLast?_append_of_ne_nil _ (rowText_ne_nil last)] at hc
      exact hrows last (by simp) (List.mem_of_getLast? hc)
  rw [flatMap_rowLine hne, trimEnd_append hlast]
  exact List.append_nil _

theorem flatMap_rowLine_ne_nil (hne : rows ≠ []) : rows.flatMap rowLine ≠ [] := by
  rw [flatMap_rowLine hne]
  simp

theorem byteCount_flatMap_rowLine (hne : rows ≠ []) :
    byteCount (rows.flatMap rowLine) = bodySize rows := by
  rw [flatMap_rowLine hne, bodySize]

/-- Groups are put together again. -/
theorem rowsText_map_bodyText (hne : ∀ group ∈ groups, group ≠ []) :
    rowsText (groups.map bodyText) = bodyText groups.flatten := by
  have hparts : groups.map bodyText = (groups.map (·.map rowText)).map rowsText := by
    rw [List.map_map]
    rfl
  rw [hparts, rowsText_flatten, bodyText, List.map_flatten]
  simpa using hne

/-- Every row is one line of the text. -/
theorem linesOf_flatMap_rowLine (hrows : ∀ r ∈ rows, '\n' ∉ rowText r) :
    linesOf (rows.flatMap rowLine) = rows.map rowLine := by
  induction rows with
  | nil => rfl
  | cons r rows ih =>
    obtain ⟨hr, hrest⟩ := List.forall_mem_cons.mp hrows
    rw [List.flatMap_cons, rowLine_eq, List.append_assoc, List.singleton_append,
      linesOf_append_newline hr, ih hrest, List.map_cons, rowLine_eq]

/-! ### Packing -/

/-- Rows in groups of at most `limit` bytes, as far as the rows allow. -/
structure Packed (limit : Nat) (groups : List (List Row)) : Prop where
  ne_nil : ∀ group ∈ groups, group ≠ []
  /-- Only a row by itself may be too long. -/
  size_le : ∀ group ∈ groups, limit < bodySize group → ∃ r, group = [r]
  /-- There was no room for the next row. -/
  full : groups.IsChain fun group next =>
    ∀ r ∈ next.head?, limit < bodySize group + byteCount (rowLine r)

/-- A group that is complete is put in front of the others. -/
theorem Packed.cons {first : List Row} (h : Packed limit groups) (hne : first ≠ [])
    (hsize : limit < bodySize first → ∃ r, first = [r])
    (hfull : ∀ next ∈ groups.head?, ∀ r ∈ next.head?,
      limit < bodySize first + byteCount (rowLine r)) : Packed limit (first :: groups) :=
  ⟨List.forall_mem_cons.mpr ⟨hne, h.ne_nil⟩, List.forall_mem_cons.mpr ⟨hsize, h.size_le⟩,
    h.full.cons hfull⟩

/-- Rows that are too many for one group are in several. -/
theorem Packed.exists_cons_cons (h : Packed limit groups) (hmany : 1 < groups.flatten.length)
    (hsize : limit < bodySize groups.flatten) :
    ∃ first r next rest, groups = first :: (r :: next) :: rest := by
  match groups, h with
  | [], _ => cases hmany
  | [first], h =>
    rw [List.flatten_singleton] at hmany hsize
    obtain ⟨r, rfl⟩ := h.size_le first List.mem_cons_self hsize
    exact absurd hmany (Nat.lt_irrefl 1)
  | first :: second :: rest, h =>
    obtain ⟨r, next, rfl⟩ := List.exists_cons_of_ne_nil (h.ne_nil second (by simp))
    exact ⟨first, r, next, rest, rfl⟩

theorem packed_nil : Packed limit [] := ⟨by simp, by simp, .nil⟩

/-- Rows are packed behind those of the current group, which stays the first one. -/
theorem exists_packed_packFrom (rows : List Row) {current : List Row} (hne : current ≠ [])
    (hsize : limit < bodySize current → ∃ r, current = [r]) :
    ∃ groups, packFrom limit (current.flatMap rowLine) (rows.map rowLine) =
        groups.map (·.flatMap rowLine) ∧
      groups.flatten = current ++ rows ∧ (∀ first ∈ groups.head?, first.head? = current.head?) ∧
      Packed limit groups := by
  induction rows generalizing current with
  | nil =>
    exact ⟨[current], if_neg (flatMap_rowLine_ne_nil hne), by simp,
      fun first hfirst => by rw [← Option.some.inj hfirst],
      packed_nil.cons hne hsize (by simp)⟩
  | cons r rows ih =>
    have hline : rowLine r = [r].flatMap rowLine := (List.flatMap_singleton ..).symm
    rw [List.map_cons, packFrom, byteCount_flatMap_rowLine hne]
    split
    · next hfull =>
      -- the row opens the next group
      obtain ⟨groups, hpack, hflatten, hhead, hpacked⟩ :=
        ih (List.cons_ne_nil r []) fun _ => ⟨r, rfl⟩
      refine ⟨current :: groups, by rw [hline, hpack, List.map_cons], by simp [hflatten],
        fun first hfirst => by rw [← Option.some.inj hfirst],
        hpacked.cons hne hsize fun next hnext r' hr' => ?_⟩
      rw [hhead next hnext] at hr'
      exact Option.some.inj hr' ▸ hfull.2
    · next hroom =>
      -- the row joins the current group
      have hfits : bodySize current + byteCount (rowLine r) ≤ limit :=
        not_lt.mp fun hlong => hroom ⟨flatMap_rowLine_ne_nil hne, hlong⟩
      have hjoined : bodySize (current ++ [r]) = bodySize current + byteCount (rowLine r) := by
        rw [← byteCount_flatMap_rowLine hne, ← byteCount_flatMap_rowLine (by simp),
          List.flatMap_append, byteCount_append, ← hline]
      have hsize : limit < bodySize (current ++ [r]) → ∃ r', current ++ [r] = [r'] := fun hlong => by
        omega
      obtain ⟨groups, hpack, hflatten, hhead, hpacked⟩ := ih (by simp) hsize
      refine ⟨groups, ?_, by simp [hflatten], fun first hfirst => ?_, hpacked⟩
      · rw [← hpack, List.flatMap_append, ← hline]
      · rw [hhead first hfirst, List.head?_append_of_ne_nil _ hne]

/-- **How rows are packed into bodies.** -/
theorem exists_packed (limit : Nat) (hne : rows ≠ []) :
    ∃ groups, pack limit (rows.map rowLine) = groups.map (·.flatMap rowLine) ∧
      groups.flatten = rows ∧ Packed limit groups := by
  obtain ⟨r, rows, rfl⟩ := List.exists_cons_of_ne_nil hne
  obtain ⟨groups, hpack, hflatten, -, hpacked⟩ :=
    exists_packed_packFrom rows (List.cons_ne_nil r []) fun _ : limit < _ => ⟨r, rfl⟩
  refine ⟨groups, ?_, hflatten, hpacked⟩
  rw [← hpack, pack, List.map_cons, packFrom, if_neg (by simp), List.nil_append,
    List.flatMap_singleton]

end

/-! ### Messages -/

/-- The messages that show some rows, each with the lines of one group. -/
theorem exists_render_eq (header : String) {rows : List Row} (hne : rows ≠ []) :
    ∃ groups, groups.flatten = rows ∧ Packed (bodyLimit header) groups ∧
      render header rows = groups.zipIdx.map fun p =>
        message header groups.length (p.2 + 1) (p.1.flatMap rowLine) := by
  obtain ⟨groups, hpack, hflatten, hpacked⟩ := exists_packed (bodyLimit header) hne
  refine ⟨groups, hflatten, hpacked, ?_⟩
  rw [render, if_neg hne, hpack]
  dsimp only
  rw [List.zipIdx_map, List.map_map, List.length_map]
  rfl

/-- Which message it is out of how many, if there are several. -/
def counter (total position : Nat) : String :=
  if 1 < total then " (" ++ toString position ++ "/" ++ toString total ++ ")" else ""

/-- One of the messages. -/
theorem message_eq (header : String) {total : Nat} (htotal : 0 < total) (position : Nat)
    (body : List Char) : message header total position body =
      header ++ counter total position ++ "\n<pre>" ++ String.ofList (escapeChars (trimEnd body))
        ++ "</pre>" := by
  have hcounter : (if total = 1 then ""
      else " (" ++ toString position ++ "/" ++ toString total ++ ")") = counter total position := by
    rw [counter]
    split
    · next hone => rw [if_neg (by omega)]
    · next hmany => rw [if_pos (by omega)]
  rw [message, hcounter, ← String.toList_inj]
  simp [preformatted, trimEnd]

/-- How messages show rows under a header: which rows are in which message, and the escaped body of
each. -/
structure Shows (header : String) (rows : List Row) (messages : List String)
    (groups : List (List Row)) (bodies : List (List Char)) : Prop where
  messages_ne_nil : messages ≠ []
  /-- The messages are counted if there are several. -/
  messages_eq : messages = bodies.zipIdx.map fun p =>
    header ++ counter messages.length (p.2 + 1) ++ "\n<pre>" ++ String.ofList p.1 ++ "</pre>"
  /-- Every row is in one message, in order, -/
  flatten_eq : groups.flatten = rows
  /-- with its whole line, -/
  bodies_eq : bodies.map unescapeChars = groups.map bodyText
  /-- and there is nothing else in the bodies but these lines. -/
  text_eq : rowsText (bodies.map unescapeChars) = bodyText rows
  lines_eq : linesOf (rowsText (bodies.map unescapeChars) ++ ['\n']) = rows.map rowLine
  least_le : 256 ≤ bodyLimit header
  /-- As many rows are in each message as there was room for. -/
  packed : Packed (bodyLimit header) groups

/-- **Every row is shown exactly once**, in order. -/
theorem shown_render (header : String) {rows : List Row} (hne : rows ≠ [])
    (hrows : ∀ r ∈ rows, '\n' ∉ r.address.toList ∧ '\n' ∉ r.reason.toList) :
    ∃ groups bodies, Shows header rows (render header rows) groups bodies := by
  obtain ⟨groups, rfl, hpacked, hrender⟩ := exists_render_eq header hne
  have hlines : ∀ r ∈ groups.flatten, '\n' ∉ rowText r := fun r hr =>
    newline_mem_rowText_iff.not.mpr (not_or.mpr (hrows r hr))
  have hbodies : ∀ group ∈ groups, trimEnd (group.flatMap rowLine) = bodyText group :=
    fun group hgroup => trimEnd_flatMap_rowLine (hpacked.ne_nil group hgroup) fun r hr =>
      hlines r (List.mem_flatten_of_mem hgroup hr)
  have hgroups : groups ≠ [] := by
    rintro rfl
    exact hne rfl
  have hlength : (render header groups.flatten).length = groups.length := by
    rw [hrender, List.length_map, List.length_zipIdx]
  have htext : (groups.map fun group => escapeChars (bodyText group)).map unescapeChars =
      groups.map bodyText := by
    rw [List.map_map]
    exact List.map_congr_left fun group _ => unescapeChars_escapeChars _
  refine ⟨groups, groups.map fun group => escapeChars (bodyText group),
    ?_, ?_, rfl, htext, ?_, ?_, Nat.le_max_left _ _, hpacked⟩
  · rw [← List.length_pos_iff, hlength]
    exact List.length_pos_iff.mpr hgroups
  · rw [hlength, hrender, List.zipIdx_map, List.map_map]
    refine List.map_congr_left fun p hp => ?_
    have hgroup : p.1 ∈ groups := List.fst_mem_of_mem_zipIdx hp
    rw [message_eq header (List.length_pos_iff.mpr hgroups), hbodies p.1 hgroup]
    rfl
  · rw [htext, rowsText_map_bodyText hpacked.ne_nil]
  · rw [htext, rowsText_map_bodyText hpacked.ne_nil, ← flatMap_rowLine hne,
      linesOf_flatMap_rowLine hlines]

/-- Five rows under a long header take two messages, and a row under a short header is shown with its
characters escaped. -/
theorem shown_render_two :
    let row : Row := ⟨⟨0⟩, .up, "a&b", 80, "POLL"⟩
    let rows := [row, row, row, row, row]
    let header := String.ofList (List.replicate 3700 'x')
    (∃ groups bodies, Shows header rows (render header rows) groups bodies) ∧
      (render header rows).length = 2 ∧
      (∃ groups bodies, Shows "T" [row] (render "T" [row]) groups bodies) ∧
      render "T" [row] = ["T\n<pre>1970-01-01T00:00:00Z  UP    a&amp;b:80                 POLL</pre>"] := by
  intro row rows header
  have hlimit : bodyLimit header = 256 := by
    have hsize : 'x'.utf8Size = 1 := rfl
    rw [bodyLimit, String.toList_ofList, byteCount_replicate, hsize]
    rfl
  have htwo : (render header rows).length = 2 := by
    rw [render, if_neg (by decide), hlimit, List.length_map, List.length_zipIdx]
    decide +kernel
  exact ⟨shown_render header (by decide) (by decide), htwo, shown_render "T" (by decide) (by decide),
    by decide +kernel⟩

end Uptime.LogReply
