import Mathlib.Algebra.Ring.Nat
import Mathlib.Data.List.Forall2
import Uptime.Bot.Client
import Uptime.Chat.Handler
import Uptime.Proofs.Entries
import Uptime.Proofs.LogReplies
import Uptime.Proofs.Text.Tags

/-!
# Sizes of replies about the check log

Bodies are packed to a size that leaves room for the header, for the counter and for a few bytes
more. But they are packed before they are escaped, and a line that is too long by itself is a body
all the same. So a message may be too long for one post after all, and is then cut within the block
of its lines.

## Main definitions

* `Row.Recorded`: what the check log can hold.
* `LogReply.addedBytes`: the bytes that escaping adds.
* `LogReply.Measured`: the size of a message.

## Main results

* `LogReply.measured_message`: one message.
* `LogReply.exists_oversize_ampersands`: many rows with escaped characters do not fit.
* `LogReply.fits_logReplies`: which replies fit one message.
-/

namespace Uptime

open Text

/-- What the check log can hold about a target. -/
structure Row.Recorded (r : Row) : Prop where
  address : checkAddress r.address = .ok r.address
  reason : r.reason ∈ ["INIT", "CHANGE", "POLL"]
  time : r.checkedAt.Representable

/-- Reasons are words without special characters. -/
theorem Row.Recorded.inline_reason {r : Row} (h : r.Recorded) : Inline r.reason := by
  have hwords : ∀ word ∈ ["INIT", "CHANGE", "POLL"], Inline word := by decide
  exact hwords _ h.reason

namespace LogReply

/-! ### Bytes that escaping adds -/

/-- The bytes that escaping adds to the lines of some rows. -/
def addedBytes (rows : List Row) : Nat := (rows.map fun r => escapeCost r.address.toList).sum

theorem escapeCost_of_plain {cs : List Char} (h : Plain cs) : escapeCost cs = 0 := by
  have hsize := byteCount_escapeChars cs
  rw [escapeChars_eq_self h] at hsize
  omega

theorem escapeCost_of_inline {s : String} (h : Inline s) : escapeCost s.toList = 0 :=
  escapeCost_of_plain h.plain

section

variable {r : Row} {rows : List Row}

theorem escapeCost_leftAligned (width : Nat) (s : String) :
    escapeCost (leftAligned width s).toList = escapeCost s.toList := by
  have hblanks : ∀ n, escapeCost (List.replicate n ' ') = 0 := fun n =>
    escapeCost_of_plain fun c hc => List.eq_of_mem_replicate hc ▸ rfl
  rw [leftAligned, String.toList_append, escapeCost_append, String.toList_ofList, hblanks,
    Nat.add_zero]

/-- Only the address of a row is affected. -/
theorem escapeCost_rowText (h : r.Recorded) : escapeCost (rowText r) = escapeCost r.address.toList := by
  have htime := escapeCost_of_inline r.checkedAt.inline_text
  have hword : escapeCost r.status.word.toList = 0 := by cases r.status <;> decide
  have hport := escapeCost_of_inline (inline_toString r.port.toNat)
  have hreason := escapeCost_of_inline h.inline_reason
  have hgap : escapeCost "  ".toList = 0 := by decide
  have hcolon : escapeCost ":".toList = 0 := by decide
  simp only [rowText, Row.endpoint, String.toList_append, escapeCost_append, escapeCost_leftAligned,
    htime, hword, hport, hreason, hgap, hcolon]
  omega

theorem escapeCost_bodyText (hne : rows ≠ []) (h : ∀ r ∈ rows, r.Recorded) :
    escapeCost (bodyText rows) = addedBytes rows := by
  have hnewline : escapeCost ['\n'] = 0 := rfl
  have hlines : ∀ rows : List Row, (∀ r ∈ rows, r.Recorded) →
      escapeCost (rows.flatMap rowLine) = addedBytes rows := by
    intro rows h
    induction rows with
    | nil => rfl
    | cons r rows ih =>
      obtain ⟨hr, hrows⟩ := List.forall_mem_cons.mp h
      rw [List.flatMap_cons, escapeCost_append, ih hrows, rowLine_eq, escapeCost_append, hnewline,
        escapeCost_rowText hr, addedBytes, addedBytes, List.map_cons, List.sum_cons, Nat.add_zero]
  rw [← hlines rows h, flatMap_rowLine hne, escapeCost_append, hnewline, Nat.add_zero]

theorem addedBytes_eq_zero (h : ∀ r ∈ rows, Plain r.address.toList) :
    addedBytes rows = 0 := by
  induction rows with
  | nil => rfl
  | cons r rows ih =>
    obtain ⟨hr, hrows⟩ := List.forall_mem_cons.mp h
    have hrest := ih hrows
    rw [addedBytes] at hrest
    rw [addedBytes, List.map_cons, List.sum_cons, hrest, escapeCost_of_plain hr]

/-! ### Sizes of lines and headers -/

/-- A line is not much longer than its address. -/
theorem byteCount_rowLine_le (h : r.Recorded) :
    byteCount (rowLine r) ≤ byteCount r.address.toList + 112 := by
  have htime := Instant.byteCount_text_le h.time
  have hword : byteCount (leftAligned 4 r.status.word).toList ≤ 7 := by cases r.status <;> decide
  have hport : byteCount (toString r.port.toNat).toList ≤ 5 := by
    have hlt := r.port.toNat_lt
    exact byteCount_toString_le (by decide) (by omega)
  have hreason : byteCount r.reason.toList ≤ 6 := by
    have hwords : ∀ word ∈ ["INIT", "CHANGE", "POLL"], byteCount word.toList ≤ 6 := by decide
    exact hwords _ h.reason
  have hgap : byteCount "  ".toList = 2 := rfl
  have hcolon : byteCount ":".toList = 1 := rfl
  have hnewline : byteCount ['\n'] = 1 := rfl
  have halign : byteCount (leftAligned 21 r.endpoint).toList ≤ byteCount r.endpoint.toList + 21 := by
    have hblank : ' '.utf8Size = 1 := rfl
    rw [leftAligned, String.toList_append, byteCount_append, String.toList_ofList,
      byteCount_replicate, hblank]
    omega
  simp only [Row.endpoint, String.toList_append, byteCount_append, hcolon] at halign
  simp only [rowLine_eq, rowText, Row.endpoint, String.toList_append, byteCount_append, hgap,
    hnewline]
  omega

/-- A line is longer than its address. -/
theorem byteCount_address_le (r : Row) : byteCount r.address.toList ≤ byteCount (rowText r) := by
  simp only [rowText, Row.endpoint, leftAligned, String.toList_append, byteCount_append]
  omega

/-- The lines of some rows are longer than each of them. -/
theorem byteCount_bodyText_of_mem (h : r ∈ rows) :
    byteCount (rowText r) ≤ byteCount (bodyText rows) := by
  have hne : rows ≠ [] := List.ne_nil_of_mem h
  have hnewline : byteCount ['\n'] = 1 := rfl
  have hline := byteCount_le_of_mem (List.mem_map_of_mem (f := rowLine) h)
  rw [← List.flatMap_def, flatMap_rowLine hne, rowLine_eq, byteCount_append, byteCount_append] at hline
  omega

theorem byteCount_header_le {name : String} (hname : checkName name = .ok name)
    (hcount : rows.length < 2 ^ 64) : byteCount (header name rows).toList ≤ 599 := by
  have hescape := byteCount_escapeChars_of_checkName hname
  have hnumber : ∀ n ≤ rows.length, byteCount (toString n).toList ≤ 20 := fun n hn =>
    byteCount_toString_le (by decide) (by omega)
  have hrows := hnumber _ (Nat.le_refl _)
  have hup := hnumber _ (List.countP_le_length (p := fun r => r.status = .up) (l := rows))
  have hdown := hnumber _ (List.countP_le_length (p := fun r => r.status = .down) (l := rows))
  have htexts : byteCount "Track: ".toList = 7 ∧ byteCount " | rows: ".toList = 9 ∧
      byteCount " | up: ".toList = 7 ∧ byteCount " | down: ".toList = 9 := by decide
  simp only [header, String.toList_append, byteCount_append, byteCount_bold, escape,
    String.toList_ofList, htexts]
  omega

end

/-- There is always room for more than the least body. -/
theorem bodyLimit_eq {header : String} (h : byteCount header.toList ≤ 599) :
    byteCount header.toList + 12 + bodyLimit header = 3800 := by
  rw [bodyLimit, messageBudget, leastBody]
  omega

/-! ### Messages -/

theorem byteCount_counter_le {total position : Nat} (htotal : total < 2 ^ 64)
    (hposition : position ≤ total) : byteCount (counter total position).toList ≤ 44 := by
  have hnumber : ∀ n ≤ total, byteCount (toString n).toList ≤ 20 := fun n hn =>
    byteCount_toString_le (by decide) (by omega)
  have hfirst := hnumber position hposition
  have hsecond := hnumber total (Nat.le_refl _)
  have htexts : byteCount " (".toList = 2 ∧ byteCount "/".toList = 1 ∧ byteCount ")".toList = 1 := by
    decide
  rw [counter]
  split
  · simp only [String.toList_append, byteCount_append, htexts]
    omega
  · exact Nat.zero_le _

/-- A message about a group of rows: how large it is, and what has happened if it is too large. -/
structure Measured (header : String) (total position : Nat) (group : List Row) (message : String) :
    Prop where
  size_eq : message.utf8ByteSize = header.utf8ByteSize + (counter total position).utf8ByteSize + 12
    + byteCount (bodyText group) + addedBytes group
  /-- It is posted as it stands if it fits, and cut otherwise. -/
  parts_eq_iff : Bot.parts message = [message] ↔ message.utf8ByteSize ≤ maxMessageBytes
  /-- It has one row that is too long, or too many characters that are escaped. -/
  oversize : maxMessageBytes < message.utf8ByteSize →
    157 < addedBytes group ∨ ∃ r, group = [r] ∧ bodyLimit header < byteCount (rowLine r)

/-- A message that has no room for one more row takes nearly all of the budget, and what escaping adds
comes on top. -/
theorem Measured.lt_of_full {header message : String} {total position : Nat} {group : List Row}
    (h : Measured header total position group message) (hheader : byteCount header.toList ≤ 599)
    {r : Row} (hfull : bodyLimit header < bodySize group + byteCount (rowLine r)) :
    3799 + addedBytes group < message.utf8ByteSize + byteCount (rowLine r) := by
  have hlimit := bodyLimit_eq hheader
  have hnewline : byteCount ['\n'] = 1 := rfl
  rw [bodySize, byteCount_append, hnewline] at hfull
  rw [h.size_eq, utf8ByteSize_eq_byteCount header]
  omega

/-- A message fits if nothing in it is escaped and no row is too long. -/
theorem Measured.le_of_plain {header message : String} {total position : Nat} {group : List Row}
    (h : Measured header total position group message) (hheader : byteCount header.toList ≤ 599)
    (hrows : ∀ r ∈ group, r.Recorded)
    (hplain : ∀ r ∈ group, Plain r.address.toList ∧ r.address.utf8ByteSize ≤ 3000) :
    message.utf8ByteSize ≤ maxMessageBytes := by
  by_contra hlong
  rcases h.oversize (not_le.mp hlong) with hadded | ⟨r, rfl, hline⟩
  · have hnone : addedBytes group = 0 := addedBytes_eq_zero fun r hr => (hplain r hr).1
    omega
  · have hsize := byteCount_rowLine_le (hrows r List.mem_cons_self)
    have hlimit := bodyLimit_eq hheader
    have haddress := (hplain r List.mem_cons_self).2
    rw [utf8ByteSize_eq_byteCount] at haddress
    omega

/-- A message does not fit if it has an address that is too long by itself. -/
theorem Measured.lt_of_mem {header message : String} {total position : Nat} {group : List Row}
    (h : Measured header total position group message) {r : Row} (hr : r ∈ group)
    (hlong : maxMessageBytes ≤ r.address.utf8ByteSize) :
    maxMessageBytes < message.utf8ByteSize := by
  have hbody := byteCount_bodyText_of_mem hr
  have haddress := byteCount_address_le r
  rw [utf8ByteSize_eq_byteCount] at hlong
  rw [h.size_eq]
  omega

section

variable {header : String} {groups : List (List Row)} {group : List Row}

theorem utf8ByteSize_message (header : String) {total : Nat} (htotal : 0 < total) (position : Nat)
    (hne : group ≠ []) (hgroup : ∀ r ∈ group, r.Recorded) :
    (message header total position (group.flatMap rowLine)).utf8ByteSize =
      header.utf8ByteSize + (counter total position).utf8ByteSize + 12
        + byteCount (bodyText group) + addedBytes group := by
  have hlines : ∀ r ∈ group, '\n' ∉ rowText r := fun r hr =>
    newline_mem_rowText_iff.not.mpr (not_or.mpr
      ⟨newline_notMem_of_checkAddress (hgroup r hr).address,
        (hgroup r hr).inline_reason.newline_notMem⟩)
  have hopen : "\n<pre>".utf8ByteSize = 6 := by decide
  have hclose : "</pre>".utf8ByteSize = 6 := by decide
  have hbody : (String.ofList (escapeChars (bodyText group))).utf8ByteSize =
      byteCount (bodyText group) + addedBytes group := by
    rw [utf8ByteSize_eq_byteCount, String.toList_ofList, byteCount_escapeChars,
      escapeCost_bodyText hne hgroup]
  rw [message_eq header htotal, trimEnd_flatMap_rowLine hne hlines]
  simp only [String.utf8ByteSize_append, hopen, hclose, hbody]
  omega

/-- **One message** of those about rows that are packed. -/
theorem measured_message (hpacked : Packed (bodyLimit header) groups)
    (hheader : byteCount header.toList ≤ 599) (hcount : groups.length < 2 ^ 64)
    (hrows : ∀ group ∈ groups, ∀ r ∈ group, r.Recorded) {position : Nat}
    (hgroup : group ∈ groups) (hposition : position ≤ groups.length) :
    Measured header groups.length position group
      (message header groups.length position (group.flatMap rowLine)) := by
  have hpos : 0 < groups.length := List.length_pos_of_mem hgroup
  have hsize := utf8ByteSize_message header hpos position (hpacked.ne_nil group hgroup)
    (hrows group hgroup)
  refine ⟨hsize, chunks_eq_singleton_iff, fun hlong => ?_⟩
  by_cases hfits : bodySize group ≤ bodyLimit header
  · -- the header and the body leave room for the counter
    have hcounter := byteCount_counter_le hcount hposition
    have hlimit := bodyLimit_eq hheader
    have hnewline : byteCount ['\n'] = 1 := rfl
    rw [bodySize, byteCount_append, hnewline] at hfits
    rw [hsize, utf8ByteSize_eq_byteCount, utf8ByteSize_eq_byteCount, maxMessageBytes] at hlong
    left
    omega
  · right
    obtain ⟨r, rfl⟩ := hpacked.size_le group hgroup (not_le.mp hfits)
    refine ⟨r, rfl, ?_⟩
    rw [← byteCount_flatMap_rowLine (List.cons_ne_nil r []), List.flatMap_singleton] at hfits
    exact not_le.mp hfits

end

/-! ### Replies -/

section

variable {name : String} {rows : List Row}

theorem length_le_length_flatten {groups : List (List Row)} (h : ∀ group ∈ groups, group ≠ []) :
    groups.length ≤ groups.flatten.length := by
  induction groups with
  | nil => exact Nat.le_refl _
  | cons group groups ih =>
    obtain ⟨hgroup, hgroups⟩ := List.forall_mem_cons.mp h
    have hpos := List.length_pos_iff.mpr hgroup
    have hrest := ih hgroups
    rw [List.flatten_cons, List.length_append, List.length_cons]
    omega

/-- The replies about the rows of a target, group by group. -/
theorem exists_logReplies_eq (hname : checkName name = .ok name) (hne : rows ≠ [])
    (hrows : ∀ r ∈ rows, r.Recorded) (hcount : rows.length < 2 ^ 64) :
    ∃ groups, groups.flatten = rows ∧ Packed (bodyLimit (header name rows)) groups ∧
      logReplies name (some rows) = groups.zipIdx.map (fun p =>
        message (header name rows) groups.length (p.2 + 1) (p.1.flatMap rowLine)) ∧
      ∀ p ∈ groups.zipIdx, Measured (header name rows) groups.length (p.2 + 1) p.1
        (message (header name rows) groups.length (p.2 + 1) (p.1.flatMap rowLine)) := by
  obtain ⟨groups, hflatten, hpacked, hrender⟩ := exists_render_eq (header name rows) hne
  have hreplies : logReplies name (some rows) = render (header name rows) rows := by
    cases rows with
    | nil => exact absurd rfl hne
    | cons r rows => rfl
  refine ⟨groups, hflatten, hpacked, hreplies.trans hrender, fun p hp => ?_⟩
  have hlength : groups.length ≤ rows.length := hflatten ▸ length_le_length_flatten hpacked.ne_nil
  have hgroup : p.1 ∈ groups := List.fst_mem_of_mem_zipIdx hp
  have hposition : p.2 < groups.length := by
    have := List.snd_lt_of_mem_zipIdx hp
    omega
  refine measured_message hpacked (byteCount_header_le hname hcount) (by omega) ?_ hgroup hposition
  exact fun group hgroup r hr => hrows r (hflatten ▸ List.mem_flatten_of_mem hgroup hr)

/-- A row with eight characters that are escaped. -/
def ampersands : Row := ⟨⟨0⟩, .up, "&&&&&&&&", 80, "POLL"⟩

theorem recorded_ampersands : ampersands.Recorded := ⟨by decide, by decide, by decide⟩

theorem byteCount_rowLine_ampersands : byteCount (rowLine ampersands) = 56 := by decide +kernel

theorem bodySize_replicate_ampersands {k : Nat} (hk : 0 < k) :
    bodySize (List.replicate k ampersands) = 56 * k := by
  have hlines : ∀ k, byteCount ((List.replicate k ampersands).flatMap rowLine) = 56 * k := by
    intro k
    induction k with
    | zero => rfl
    | succ k ih =>
      rw [List.replicate_succ, List.flatMap_cons, byteCount_append, ih, byteCount_rowLine_ampersands]
      omega
  rw [← hlines, byteCount_flatMap_rowLine]
  simpa using Nat.ne_of_gt hk

theorem addedBytes_replicate_ampersands (k : Nat) :
    addedBytes (List.replicate k ampersands) = 32 * k := by
  have hcost : escapeCost ampersands.address.toList = 32 := by decide
  rw [addedBytes, List.map_replicate, List.sum_replicate_nat, hcost, Nat.mul_comm]

/-- **Many rows with escaped characters do not fit**, whatever name they are logged under. -/
theorem exists_oversize_ampersands (hname : checkName name = .ok name) :
    ∃ message ∈ logReplies name (some (List.replicate logLimit ampersands)),
      maxMessageBytes < message.utf8ByteSize := by
  have hrows : ∀ r ∈ List.replicate logLimit ampersands, r.Recorded := fun r hr =>
    List.eq_of_mem_replicate hr ▸ recorded_ampersands
  have hcount : (List.replicate logLimit ampersands).length < 2 ^ 64 := by
    rw [List.length_replicate, logLimit]
    decide
  have hne : List.replicate logLimit ampersands ≠ [] := by simp [logLimit]
  obtain ⟨groups, hflatten, hpacked, hreplies, hmeasured⟩ :=
    exists_logReplies_eq hname hne hrows hcount
  have hheader := byteCount_header_le hname hcount
  have hlimit := bodyLimit_eq hheader
  have hsame : ∀ group ∈ groups, ∀ r ∈ group, r = ampersands := fun group hgroup r hr =>
    List.eq_of_mem_replicate (hflatten ▸ List.mem_flatten_of_mem hgroup hr)
  -- all rows are too long for one body, so the first one has no room for the row behind it
  obtain ⟨first, r, next, rest, rfl⟩ : ∃ first r next rest, groups = first :: (r :: next) :: rest := by
    refine hpacked.exists_cons_cons ?_ ?_ <;> rw [hflatten]
    · rw [List.length_replicate, logLimit]
      decide
    · have hmost : logLimit = 120 := rfl
      rw [bodySize_replicate_ampersands (by decide)]
      omega
  have hfull := (List.isChain_cons_cons.mp hpacked.full).1 r rfl
  have hp : (first, 0) ∈ (first :: (r :: next) :: rest).zipIdx := by simp
  have hmessage := (hmeasured _ hp).lt_of_full hheader hfull
  have hfirst : first = List.replicate first.length ampersands :=
    List.eq_replicate_of_mem (hsame first List.mem_cons_self)
  have hpos : 0 < first.length := List.length_pos_iff.mpr (hpacked.ne_nil first List.mem_cons_self)
  have hsize := bodySize_replicate_ampersands hpos
  have hadded := addedBytes_replicate_ampersands first.length
  rw [← hfirst] at hsize hadded
  have hline : byteCount (rowLine r) = 56 := by
    rw [hsame (r :: next) (by simp) r List.mem_cons_self, byteCount_rowLine_ampersands]
  rw [hline] at hfull hmessage
  rw [hreplies]
  refine ⟨_, List.mem_map_of_mem hp, ?_⟩
  dsimp only at hmessage ⊢
  rw [maxMessageBytes]
  omega

/-- **Which replies about the check log fit one message.** A reply is too long only if it has one row
that is too long, or if escaping adds more than what is left of the budget. All replies fit if no
address has a character that is escaped or takes most of the budget. An address that is too long
by itself does not fit, and under every name there are rows with short addresses that do not. -/
theorem fits_logReplies (hname : checkName name = .ok name) (hne : rows ≠ [])
    (hrows : ∀ r ∈ rows, r.Recorded) (hcount : rows.length < 2 ^ 64) :
    (∃ groups : List (List Row), groups.flatten = rows ∧
      List.Forall₂ (fun p => Measured (header name rows) groups.length (p.2 + 1) p.1)
        groups.zipIdx (logReplies name (some rows))) ∧
    ((∀ r ∈ rows, Plain r.address.toList ∧ r.address.utf8ByteSize ≤ 3000) →
      ∀ message ∈ logReplies name (some rows),
        message.utf8ByteSize ≤ maxMessageBytes ∧ Bot.parts message = [message]) ∧
    (∀ r ∈ rows, maxMessageBytes ≤ r.address.utf8ByteSize →
      ∃ message ∈ logReplies name (some rows), maxMessageBytes < message.utf8ByteSize) ∧
    ∃ rows' : List Row, rows'.length ≤ logLimit ∧
      (∀ r ∈ rows', r.Recorded ∧ r.address.length ≤ 8) ∧
      ∃ message ∈ logReplies name (some rows'), maxMessageBytes < message.utf8ByteSize := by
  obtain ⟨groups, hflatten, hpacked, hreplies, hmeasured⟩ :=
    exists_logReplies_eq hname hne hrows hcount
  refine ⟨⟨groups, hflatten, ?_⟩, fun hplain message hmessage => ?_, fun r hr hlong => ?_, ?_⟩
  · rw [hreplies, List.forall₂_map_right_iff, List.forall₂_same]
    exact hmeasured
  · rw [hreplies] at hmessage
    obtain ⟨p, hp, rfl⟩ := List.mem_map.mp hmessage
    have hgroup : ∀ r ∈ p.1, r ∈ rows := fun r hr =>
      hflatten ▸ List.mem_flatten_of_mem (List.fst_mem_of_mem_zipIdx hp) hr
    have hfits := (hmeasured p hp).le_of_plain (byteCount_header_le hname hcount)
      (fun r hr => hrows r (hgroup r hr)) fun r hr => hplain r (hgroup r hr)
    exact ⟨hfits, (hmeasured p hp).parts_eq_iff.mpr hfits⟩
  · obtain ⟨group, hgroup, hmem⟩ := List.mem_flatten.mp (hflatten.symm ▸ hr)
    obtain ⟨i, hi⟩ := List.getElem?_of_mem hgroup
    have hp : (group, i) ∈ groups.zipIdx := List.mk_mem_zipIdx_iff_getElem?.mpr hi
    rw [hreplies]
    exact ⟨_, List.mem_map_of_mem hp, (hmeasured _ hp).lt_of_mem hmem hlong⟩
  · refine ⟨List.replicate logLimit ampersands, by simp, fun r hr => ?_,
      exists_oversize_ampersands hname⟩
    rw [List.eq_of_mem_replicate hr]
    exact ⟨recorded_ampersands, by decide⟩

end

/-- A short row fits. A row whose address takes a whole message does not, nor do many rows with
escaped characters. -/
theorem fits_logReplies_web :
    let short : Row := ⟨⟨0⟩, .up, "10.0.0.1", 80, "POLL"⟩
    let long : Row := ⟨⟨0⟩, .up, String.ofList (List.replicate 4000 'x'), 80, "POLL"⟩
    checkName "web" = .ok "web" ∧ short.Recorded ∧ long.Recorded ∧
      (∀ message ∈ logReplies "web" (some [short]),
        message.utf8ByteSize ≤ maxMessageBytes ∧ Bot.parts message = [message]) ∧
      (∃ message ∈ logReplies "web" (some [long]), maxMessageBytes < message.utf8ByteSize) ∧
      ∃ rows' : List Row, rows'.length ≤ logLimit ∧
        (∀ r ∈ rows', r.Recorded ∧ r.address.length ≤ 8) ∧
        ∃ message ∈ logReplies "web" (some rows'), maxMessageBytes < message.utf8ByteSize := by
  intro short long
  have hname : checkName "web" = .ok "web" := by decide
  have hshort : short.Recorded := ⟨by decide, by decide, by decide⟩
  have hlong : long.Recorded := ⟨checkAddress_replicate (by decide), by decide, by decide⟩
  have hsize : maxMessageBytes ≤ long.address.utf8ByteSize := by
    have hwidth : 'x'.utf8Size = 1 := rfl
    rw [utf8ByteSize_eq_byteCount, String.toList_ofList, byteCount_replicate, hwidth]
    decide
  obtain ⟨-, hfits, -, hmany⟩ := fits_logReplies hname (List.cons_ne_nil short [])
    (List.forall_mem_singleton.mpr hshort) (by decide)
  obtain ⟨-, -, hoversize, -⟩ := fits_logReplies hname (List.cons_ne_nil long [])
    (List.forall_mem_singleton.mpr hlong) (by decide)
  exact ⟨hname, hshort, hlong, hfits (List.forall_mem_singleton.mpr ⟨by decide, by decide⟩),
    hoversize long List.mem_cons_self hsize, hmany⟩

end LogReply

end Uptime
