import Uptime.Alert.Message
import Uptime.Bot.Client
import Uptime.Chat.Reply
import Uptime.Proofs.Names
import Uptime.Proofs.Text.Rows
import Uptime.Proofs.Text.Tags

/-!
# Messages about targets

An alert, a list or a status report is written in rows: some about all targets, and some about each
of them. Only the latter can be long, and only a name or an address can put a newline into one.

## Main definitions

* `Post`: a message about targets.
* `Post.rows`: the rows in which it is written.
* `FitRow`: what a row must be like for the message to be cut into chunks.

## Main results

* `Post.toList_text`: a message is written in rows.
* `guarded_targetLine`, `entryRow_of_mem_listRows`, `entryRow_of_mem_statusRows`: the rows about
  a target.
* `Post.fitRow_of_mem_rows`: what holds of every row.
-/

namespace Uptime

open Text

/-! ### Messages about targets -/

/-- A message that names targets. -/
inductive Post
  /-- An alert about some events. -/
  | alert (events : List Event)
  /-- The list of the targets. -/
  | list (snapshot : Snapshot)
  /-- The status report. -/
  | status (snapshot : Snapshot)
  deriving DecidableEq, Repr

/-- What was probed when an event was found out. -/
def Event.identity (e : Event) : Identity := ⟨e.target, e.address, e.port⟩

namespace Post

/-- The text of a message. -/
def text : Post → String
  | alert events => Alert.groupText events
  | list snapshot => Reply.list snapshot
  | status snapshot => Reply.status snapshot

/-- The targets that a message names. -/
def identities : Post → List Identity
  | alert events => events.map Event.identity
  | list snapshot => snapshot.targets.map TargetState.identity
  | status snapshot => snapshot.targets.map TargetState.identity

/-- What a message says about each of them. -/
def entries : Post → List String
  | alert events => events.map Alert.targetLine
  | list snapshot => Reply.entries Reply.listEntry snapshot
  | status snapshot => Reply.entries Reply.statusEntry snapshot

/-- Events and targets are counted by machine words, and the times of events are in the calendar. -/
def InRange : Post → Prop
  | alert events => events.length < 2 ^ 64 ∧ ∀ e ∈ events, e.occurred.Representable
  | list _ => True
  | status s => s.total < 2 ^ 64 ∧ s.up < 2 ^ 64 ∧ s.down < 2 ^ 64 ∧ s.unknown < 2 ^ 64

end Post

/-! ### Rows -/

/-- The rows of an alert. -/
def alertRows (e : Event) (es : List Event) : List String :=
  [bold (if es.length + 1 = 1 then e.kind.word else e.kind.word ++ " x" ++ toString (es.length + 1)),
    "reason: " ++ code e.reason.word, "time_utc: " ++ code e.occurred.text, "targets:"]
    ++ (e :: es).map Alert.targetLine

/-- The row about a target in the list. -/
def listRows (t : TargetState) (position : Nat) : List String :=
  [toString position ++ ". " ++ bold (escape t.name) ++ " - " ++ Reply.endpoint t]

/-- The rows about a target in the status report. The last one sets it apart from the next. -/
def statusRows (t : TargetState) (position : Nat) : List String :=
  [toString position ++ ". " ++ bold (escape t.name), "endpoint: " ++ Reply.endpoint t,
    "state: " ++ bold t.status.word, "changed: " ++ code (Instant.textOrDash t.lastChanged),
    "checked: " ++ code (Instant.textOrDash t.lastChecked), ""]

/-- The targets of a snapshot with their positions, which count from one. -/
def numbered (s : Snapshot) : List (TargetState × Nat) :=
  (sortByName TargetState.name s.targets).zipIdx.map fun p => (p.1, p.2 + 1)

namespace Post

/-- The rows of a message. -/
def rows : Post → List String
  | alert [] => [""]
  | alert (e :: es) => alertRows e es
  | list s =>
    if s.targets = [] then [Reply.noTargets]
    else [bold "Configured tracks"] ++ (numbered s).flatMap (fun p => listRows p.1 p.2) ++ [""]
  | status s =>
    if s.targets = [] then [Reply.noTargets]
    else
      [bold "Status snapshot (UTC)", Reply.totals s, ""]
        ++ (numbered s).flatMap (fun p => statusRows p.1 p.2) ++ [""]

theorem rows_ne_nil (p : Post) : p.rows ≠ [] := by
  cases p with
  | alert events => cases events <;> simp [rows, alertRows]
  | list s =>
    rw [rows]
    split <;> simp
  | status s =>
    rw [rows]
    split <;> simp

/-- **A message is written in rows.** -/
theorem toList_text (p : Post) : p.text.toList = rowsText (p.rows.map String.toList) := by
  cases p with
  | alert events =>
    cases events with
    | nil => rfl
    | cons e es =>
      simp [text, rows, Alert.groupText, alertRows, Alert.heading, Alert.field, rowsText_cons,
        String.toList_join, List.flatMap_map]
  | list s =>
    rw [text, rows, Reply.list]
    split
    · rfl
    · have hconcat : [""].map String.toList = [([] : List Char)] := rfl
      rw [List.map_append, hconcat, rowsText_concat, List.append_nil]
      simp [Reply.entries, Reply.listEntry, listRows, numbered, String.toList_join, List.flatMap_map,
        List.flatMap_assoc, List.map_flatMap]
  | status s =>
    rw [text, rows, Reply.status]
    split
    · rfl
    · have hconcat : [""].map String.toList = [([] : List Char)] := rfl
      rw [List.map_append, hconcat, rowsText_concat, List.append_nil]
      simp [Reply.entries, Reply.statusEntry, statusRows, numbered, String.toList_join,
        List.flatMap_map, List.flatMap_assoc, List.map_flatMap]

end Post

/-! ### What holds of every row -/

/-- What chunks of at most `m` bytes need of a row, if the targets `ids` are named. -/
structure FitRow (m : Nat) (ids : List Identity) (row : String) : Prop where
  guarded : Guarded row.toList
  size_le : byteCount row.toList ≤ m
  /-- A newline in a row comes from a name or an address. -/
  newline : '\n' ∈ row.toList → ∃ id ∈ ids, '\n' ∈ id.name.toList ∨ '\n' ∈ id.address.toList

section

variable {m : Nat} {ids : List Identity} {row : String}

/-- A row without names. -/
theorem fitRow_of_notMem (h : Guarded row.toList) (hsize : byteCount row.toList ≤ m)
    (hnewline : '\n' ∉ row.toList) : FitRow m ids row :=
  ⟨h, hsize, fun hmem => absurd hmem hnewline⟩

theorem fitRow_of_inline (h : Inline row) (hsize : byteCount row.toList ≤ m) : FitRow m ids row :=
  fitRow_of_notMem h.guarded hsize h.newline_notMem

end

/-- Address and port, as code. -/
theorem guarded_endpoint (address : String) (port : Nat) :
    Guarded (code (escape address ++ ":" ++ toString port)).toList := by
  have hcolon : Inline ":" := by decide
  have hport := inline_toString port
  refine guarded_code (wellFormed_append (wellFormed_append (wellFormed_escape address)
    hcolon.wellFormed) hport.wellFormed) ?_
  simp only [String.toList_append, List.mem_append, lt_notMem_escape, hcolon.lt_notMem,
    hport.lt_notMem, or_self, not_false_eq_true]

theorem newline_mem_endpoint_iff {address : String} {port : Nat} :
    '\n' ∈ (code (escape address ++ ":" ++ toString port)).toList ↔ '\n' ∈ address.toList := by
  have hcolon : '\n' ∉ ":".toList := by decide
  have hport := (inline_toString port).newline_notMem
  simp only [newline_mem_code_iff, newline_mem_append_iff, newline_mem_escape_iff, hcolon, hport,
    or_false]

/-! #### Alerts -/

theorem AlertKind.inline_word (k : AlertKind) : Inline k.word := by cases k <;> decide

theorem AlertReason.inline_word (r : AlertReason) : Inline r.word := by cases r <;> decide

theorem AlertKind.byteCount_word_le (k : AlertKind) : byteCount k.word.toList ≤ 9 := by
  cases k <;> decide

theorem AlertReason.byteCount_word_le (r : AlertReason) : byteCount r.word.toList ≤ 13 := by
  cases r <;> decide

section

variable {m : Nat} {e : Event} {es : List Event}

theorem guarded_targetLine (e : Event) : Guarded (Alert.targetLine e).toList := by
  have hdash : Inline "- " := by decide
  have hopen : Inline " (" := by decide
  have hclose : Inline ")" := by decide
  have hname := guarded_append hdash.guarded (guarded_code_escape e.target)
  exact guarded_append (guarded_append (guarded_append hname hopen.guarded)
    (guarded_endpoint e.address e.port.toNat)) hclose.guarded

theorem newline_mem_targetLine_iff : '\n' ∈ (Alert.targetLine e).toList ↔
    '\n' ∈ e.target.toList ∨ '\n' ∈ e.address.toList := by
  have hdash : '\n' ∉ "- ".toList := by decide
  have hopen : '\n' ∉ " (".toList := by decide
  have hclose : '\n' ∉ ")".toList := by decide
  simp only [Alert.targetLine, newline_mem_append_iff, newline_mem_endpoint_iff, hdash, hopen,
    hclose, or_false, false_or]
  rw [newline_mem_code_iff, newline_mem_escape_iff]

/-- The title of an alert. -/
theorem inline_title (k : AlertKind) (n : Nat) :
    Inline (if n = 1 then k.word else k.word ++ " x" ++ toString n) := by
  have htimes : Inline " x" := by decide
  split
  · exact k.inline_word
  · exact inline_append_iff.mpr
      ⟨inline_append_iff.mpr ⟨k.inline_word, htimes⟩, inline_toString n⟩

theorem byteCount_title_le (k : AlertKind) {n : Nat} (h : n < 2 ^ 64) :
    byteCount (if n = 1 then k.word else k.word ++ " x" ++ toString n).toList ≤ 31 := by
  have hword := k.byteCount_word_le
  have hnumber := byteCount_toString_le (n := n) (k := 20) (by decide) (by omega)
  have htimes : byteCount " x".toList = 2 := rfl
  split
  · omega
  · simp only [String.toList_append, byteCount_append, htimes]
    omega

/-- A label and a value as code, in a row of its own. -/
theorem fitRow_field {m : Nat} {ids : List Identity} {label value : String} (hlabel : Inline label)
    (hvalue : Inline value) (hsize : byteCount label.toList + byteCount value.toList + 13 ≤ m) :
    FitRow m ids (label ++ code value) := by
  refine fitRow_of_notMem (guarded_append hlabel.guarded hvalue.guarded_code) ?_ ?_
  · rw [String.toList_append, byteCount_append, byteCount_code]
    omega
  · simp only [newline_mem_append_iff, newline_mem_code_iff, hlabel.newline_notMem,
      hvalue.newline_notMem, or_false, not_false_eq_true]

/-- **The rows of an alert.** -/
theorem fitRow_of_mem_alertRows (hm : 200 ≤ m) (hcount : es.length + 1 < 2 ^ 64)
    (htime : e.occurred.Representable)
    (hentries : ∀ e' ∈ e :: es, byteCount (Alert.targetLine e').toList ≤ m) :
    ∀ row ∈ alertRows e es, FitRow m ((e :: es).map Event.identity) row := by
  intro row hrow
  rcases List.mem_append.mp hrow with hrow | hrow
  · simp only [List.mem_cons, List.not_mem_nil, or_false] at hrow
    rcases hrow with rfl | rfl | rfl | rfl
    · have htitle := inline_title e.kind (es.length + 1)
      have hsize := byteCount_title_le e.kind hcount
      refine fitRow_of_notMem htitle.guarded_bold ?_ ?_
      · rw [byteCount_bold]
        omega
      · rw [newline_mem_bold_iff]
        exact htitle.newline_notMem
    · have hlabel : byteCount "reason: ".toList = 8 := rfl
      have hsize := e.reason.byteCount_word_le
      exact fitRow_field (by decide) e.reason.inline_word (by omega)
    · have hlabel : byteCount "time_utc: ".toList = 10 := rfl
      have hsize := Instant.byteCount_text_le htime
      exact fitRow_field (by decide) e.occurred.inline_text (by omega)
    · have hsize : byteCount "targets:".toList = 8 := rfl
      exact fitRow_of_inline (by decide) (by omega)
  · obtain ⟨e', he', rfl⟩ := List.mem_map.mp hrow
    refine ⟨guarded_targetLine e', hentries e' he', fun hmem => ?_⟩
    exact ⟨e'.identity, List.mem_map_of_mem he', newline_mem_targetLine_iff.mp hmem⟩

end

/-! #### Lists and reports -/

section

variable {m n : Nat} {t : TargetState} {s : Snapshot}

theorem inline_statusWord (status : Status) : Inline status.word := by cases status <;> decide

/-- The totals are not marked up. -/
theorem inline_totals (s : Snapshot) : Inline (Reply.totals s) := by
  simp only [Reply.totals, inline_append_iff, inline_toString, and_true]
  decide

theorem byteCount_totals_le (h : (Post.status s).InRange) :
    byteCount (Reply.totals s).toList ≤ 116 := by
  obtain ⟨htotal, hup, hdown, hunknown⟩ := h
  have hnumber : ∀ n : Nat, n < 2 ^ 64 → byteCount (toString n).toList ≤ 20 := fun n hn =>
    byteCount_toString_le (by decide) (by omega)
  have htotal := hnumber _ htotal
  have hup := hnumber _ hup
  have hdown := hnumber _ hdown
  have hunknown := hnumber _ hunknown
  have htexts : byteCount "tracks: ".toList = 8 ∧ byteCount " | up: ".toList = 7 ∧
      byteCount " | down: ".toList = 9 ∧ byteCount " | unknown: ".toList = 12 := by decide
  simp only [Reply.totals, String.toList_append, byteCount_append, htexts]
  omega

/-- A row of an entry is no longer than the entry without the newlines at its end. -/
theorem byteCount_le_byteCount_trimEnd {row : List Char} {rows : List (List Char)}
    (hrow : row ∈ rows) (hguarded : Guarded row) :
    byteCount row ≤ byteCount (trimEnd (rows.flatMap (· ++ ['\n']))) := by
  obtain ⟨before, after, rfl⟩ := List.append_of_mem hrow
  by_cases hne : row = []
  · simp [hne]
  · have hkept : ∀ c ∈ (before.flatMap (· ++ ['\n']) ++ row).getLast?, c ≠ '\n' := by
      rw [List.getLast?_append_of_ne_nil _ hne]
      exact hguarded.ne_newline_of_mem_getLast?
    have hsplit : (before ++ row :: after).flatMap (· ++ ['\n']) =
        (before.flatMap (· ++ ['\n']) ++ row) ++ '\n' :: after.flatMap (· ++ ['\n']) := by
      simp
    rw [hsplit, trimEnd_append hkept, byteCount_append, byteCount_append]
    omega

/-- A row about a target: it may have the newlines of a name or an address. -/
structure EntryRow (id : Identity) (row : String) : Prop where
  guarded : Guarded row.toList
  newline : '\n' ∈ row.toList → '\n' ∈ id.name.toList ∨ '\n' ∈ id.address.toList

theorem guarded_numberedName (n : Nat) (name : String) :
    Guarded (toString n ++ ". " ++ bold (escape name)).toList := by
  have hdot : Inline ". " := by decide
  exact guarded_append (guarded_append (inline_toString n).guarded hdot.guarded)
    (guarded_bold_escape name)

theorem newline_mem_numberedName_iff {name : String} :
    '\n' ∈ (toString n ++ ". " ++ bold (escape name)).toList ↔ '\n' ∈ name.toList := by
  have hnumber := (inline_toString n).newline_notMem
  have hdot : '\n' ∉ ". ".toList := by decide
  simp only [newline_mem_append_iff, newline_mem_bold_iff, newline_mem_escape_iff, hnumber, hdot,
    or_false, false_or]

theorem entryRow_of_mem_listRows {row : String} (h : row ∈ listRows t n) :
    EntryRow t.identity row := by
  obtain rfl := List.mem_singleton.mp h
  have hdash : Inline " - " := by decide
  refine ⟨guarded_append (guarded_append (guarded_numberedName n t.name) hdash.guarded)
    (guarded_endpoint _ _), fun hmem => ?_⟩
  rw [newline_mem_append_iff, newline_mem_append_iff, newline_mem_numberedName_iff] at hmem
  rcases hmem with (hmem | hmem) | hmem
  · exact .inl hmem
  · exact absurd hmem hdash.newline_notMem
  · exact .inr (newline_mem_endpoint_iff.mp hmem)

/-- Rows that say something else about a target. -/
theorem entryRow_bold {id : Identity} {label value : String} (hlabel : Inline label)
    (hvalue : Inline value) : EntryRow id (label ++ bold value) := by
  refine ⟨guarded_append hlabel.guarded hvalue.guarded_bold, fun hmem => ?_⟩
  rw [newline_mem_append_iff, newline_mem_bold_iff] at hmem
  exact absurd hmem (not_or.mpr ⟨hlabel.newline_notMem, hvalue.newline_notMem⟩)

theorem entryRow_code {id : Identity} {label value : String} (hlabel : Inline label)
    (hvalue : Inline value) : EntryRow id (label ++ code value) := by
  refine ⟨guarded_append hlabel.guarded hvalue.guarded_code, fun hmem => ?_⟩
  rw [newline_mem_append_iff, newline_mem_code_iff] at hmem
  exact absurd hmem (not_or.mpr ⟨hlabel.newline_notMem, hvalue.newline_notMem⟩)

theorem entryRow_of_mem_statusRows {row : String} (h : row ∈ statusRows t n) :
    EntryRow t.identity row := by
  simp only [statusRows, List.mem_cons, List.not_mem_nil, or_false] at h
  rcases h with rfl | rfl | rfl | rfl | rfl | rfl
  · exact ⟨guarded_numberedName n t.name, fun hmem => .inl (newline_mem_numberedName_iff.mp hmem)⟩
  · have hlabel : Inline "endpoint: " := by decide
    refine ⟨guarded_append hlabel.guarded (guarded_endpoint _ _), fun hmem => .inr ?_⟩
    rw [newline_mem_append_iff] at hmem
    exact newline_mem_endpoint_iff.mp (hmem.resolve_left hlabel.newline_notMem)
  · exact entryRow_bold (by decide) (inline_statusWord t.status)
  · exact entryRow_code (by decide) (Instant.inline_textOrDash _)
  · exact entryRow_code (by decide) (Instant.inline_textOrDash _)
  · exact ⟨wellFormed_nil.guarded (by simp), by simp⟩

/-- An entry of a list or a report is written in its rows. -/
theorem toList_listEntry (t : TargetState) (n : Nat) : (Reply.listEntry t n).toList =
    ((listRows t n).map String.toList).flatMap (· ++ ['\n']) := by
  simp [Reply.listEntry, listRows]

theorem toList_statusEntry (t : TargetState) (n : Nat) : (Reply.statusEntry t n).toList =
    ((statusRows t n).map String.toList).flatMap (· ++ ['\n']) := by
  simp [Reply.statusEntry, statusRows]

theorem EntryRow.fitRow {ids : List Identity} {id : Identity} {row entry : String}
    {rows : List String} (h : EntryRow id row) (hid : id ∈ ids) (hrow : row ∈ rows)
    (hentry : entry.toList = (rows.map String.toList).flatMap (· ++ ['\n']))
    (hsize : byteCount (trimEnd entry.toList) ≤ m) : FitRow m ids row := by
  refine ⟨h.guarded, Nat.le_trans ?_ hsize, fun hmem => ⟨id, hid, h.newline hmem⟩⟩
  rw [hentry]
  exact byteCount_le_byteCount_trimEnd (List.mem_map_of_mem hrow) h.guarded

/-- **The rows of the targets of a snapshot.** -/
theorem fitRow_of_mem_numbered {entry : TargetState → Nat → String}
    {entryRows : TargetState → Nat → List String}
    (hentry : ∀ t n, (entry t n).toList =
      ((entryRows t n).map String.toList).flatMap (· ++ ['\n']))
    (hrows : ∀ t n, ∀ row ∈ entryRows t n, EntryRow t.identity row)
    (hsizes : ∀ text ∈ Reply.entries entry s, byteCount (trimEnd text.toList) ≤ m) :
    ∀ row ∈ (numbered s).flatMap (fun p => entryRows p.1 p.2),
      FitRow m (s.targets.map TargetState.identity) row := by
  intro row hrow
  obtain ⟨p, hp, hrow⟩ := List.mem_flatMap.mp hrow
  obtain ⟨⟨t, i⟩, hplace, rfl⟩ := List.mem_map.mp hp
  have htarget : t ∈ s.targets := mem_sortByName.mp (List.fst_mem_of_mem_zipIdx hplace)
  have hmem : entry t (i + 1) ∈ Reply.entries entry s := List.mem_map.mpr ⟨(t, i), hplace, rfl⟩
  exact (hrows t (i + 1) row hrow).fitRow (List.mem_map_of_mem htarget) hrow (hentry t (i + 1))
    (hsizes _ hmem)

end

/-! #### All messages -/

/-- **The rows of a message.** -/
theorem Post.fitRow_of_mem_rows {m : Nat} (hm : 200 ≤ m) {p : Post} (hrange : p.InRange)
    (hentries : ∀ entry ∈ p.entries, byteCount (trimEnd entry.toList) ≤ m) :
    ∀ row ∈ p.rows, FitRow m p.identities row := by
  have hbold : ∀ {ids : List Identity} {title : String}, Inline title →
      byteCount title.toList ≤ 30 → FitRow m ids (bold title) := by
    intro ids title htitle hsize
    refine fitRow_of_notMem htitle.guarded_bold ?_ ?_
    · rw [byteCount_bold]
      omega
    · rw [newline_mem_bold_iff]
      exact htitle.newline_notMem
  have hinline : ∀ {ids : List Identity} {row : String}, Inline row →
      byteCount row.toList ≤ 116 → FitRow m ids row := fun hrow hsize =>
    fitRow_of_inline hrow (by omega)
  cases p with
  | alert events =>
    cases events with
    | nil => exact List.forall_mem_singleton.mpr (hinline (by decide) (by decide))
    | cons e es =>
      refine fitRow_of_mem_alertRows hm hrange.1 (hrange.2 e List.mem_cons_self) fun e' he' => ?_
      rw [← (guarded_targetLine e').trimEnd_eq]
      exact hentries _ (List.mem_map_of_mem he')
  | list s =>
    rw [rows]
    split
    · exact List.forall_mem_singleton.mpr (hinline (by decide) (by decide))
    · simp only [List.forall_mem_append, List.forall_mem_singleton]
      exact ⟨⟨hbold (by decide) (by decide), fitRow_of_mem_numbered toList_listEntry
        (fun _ _ _ => entryRow_of_mem_listRows) hentries⟩, hinline (by decide) (by decide)⟩
  | status s =>
    rw [rows]
    split
    · exact List.forall_mem_singleton.mpr (hinline (by decide) (by decide))
    · simp only [List.forall_mem_append, List.forall_mem_cons]
      exact ⟨⟨⟨hbold (by decide) (by decide), hinline (inline_totals s) (byteCount_totals_le hrange),
          hinline (by decide) (by decide), by simp⟩,
        fitRow_of_mem_numbered toList_statusEntry
          (fun _ _ _ => entryRow_of_mem_statusRows) hentries⟩,
        hinline (by decide) (by decide), by simp⟩

end Uptime
