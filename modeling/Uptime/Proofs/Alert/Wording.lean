import Uptime.Proofs.Posts
import Uptime.Proofs.Text.Ends

/-!
# What a message tells

A message tells which events it is about: their kind and reason, the time that it shows, and the
name, address and port of each of them in turn. Names and addresses may have any characters: they
stand within tags, and the last colon stands between an address and its port.

## Main results

* `Alert.targetLine_append_inj`: the line about a target tells its name, address and port.
* `Alert.groupText_eq_iff`: when two new messages are the same.
* `Alert.recoveredText_eq_iff`, `Alert.groupRecoveredText_eq_iff`: when two edited messages are.
* `Alert.groupText_ne_edited`, `Alert.recoveredText_ne_groupRecoveredText`: messages of different
  kinds differ.
* `Alert.texts_tell`: messages tell which events they are about.
-/

namespace Uptime

open Text

/-- A downtime can stand in a row of markup as it is. -/
theorem Span.inline_short (d : Span) : Inline d.short := by
  have hunits : Inline "s" ∧ Inline "m" ∧ Inline "h" := by decide
  rw [short, shortOfSeconds]
  split
  · simp only [inline_append_iff, inline_toString, hunits, and_self]
  · split <;> simp only [inline_append_iff, inline_toString, hunits, and_self]

theorem AlertReason.word_inj {r r' : AlertReason} : r.word = r'.word ↔ r = r' := by
  refine ⟨fun h => ?_, congrArg word⟩
  cases r <;> cases r' <;> first | rfl | exact absurd h (by decide)

namespace Alert

section

variable {e e' : Event} {es es' : List Event} {p p' : PendingSingle} {r r' : String}

/-- A line with a label and a value. -/
theorem field_append_inj {label value value' : String} (h : Inline value) (h' : Inline value') :
    field label value ++ r = field label value' ++ r' ↔ value = value' ∧ r = r' := by
  simp only [field, String.append_assoc, String.append_right_inj]
  rw [code_append_inj h.lt_notMem h'.lt_notMem, String.append_right_inj]

/-- Address and port: the last colon stands between them. -/
theorem endpoint_inj {a a' : String} {n n' : Nat} :
    escape a ++ (":" ++ toString n) = escape a' ++ (":" ++ toString n') ↔ a = a' ∧ n = n' := by
  refine ⟨fun h => ?_, by rintro ⟨rfl, rfl⟩; rfl⟩
  have hcolon : ∀ n : Nat, ':' ∉ (toString n).toList := by
    intro n hmem
    rw [Nat.toString_eq_ofList_toDigits, String.toList_ofList] at hmem
    exact absurd (isDigit_of_mem_toDigits hmem) (by decide)
  have hchars := congrArg String.toList h
  simp only [String.toList_append] at hchars
  obtain ⟨haddress, hport⟩ := eq_of_append_cons_last (hcolon n) (hcolon n') hchars
  exact ⟨escape_inj.mp (String.toList_injective haddress),
    toString_inj.mp (String.toList_injective hport)⟩

/-- **The line about a target** tells its name, address and port, and where it ends. -/
theorem targetLine_append_inj :
    targetLine e ++ r = targetLine e' ++ r' ↔ e.identity = e'.identity ∧ r = r' := by
  have hendpoint : ∀ e : Event,
      '<' ∉ (escape e.address ++ (":" ++ toString e.port.toNat)).toList := by
    intro e
    have hcolon : Inline ":" := by decide
    simp only [String.toList_append, List.mem_append, lt_notMem_escape, hcolon.lt_notMem,
      (inline_toString _).lt_notMem, or_self, not_false_eq_true]
  simp only [targetLine, String.append_assoc, String.append_right_inj]
  rw [code_append_inj (lt_notMem_escape _) (lt_notMem_escape _), String.append_right_inj,
    code_append_inj (hendpoint e) (hendpoint e'), escape_inj, endpoint_inj, UInt16.toNat_inj,
    String.append_right_inj, Event.identity, Event.identity, Identity.mk.injEq]
  simp only [and_assoc]

/-- A heading tells the kind of the events and their number. -/
theorem title_inj {k k' : AlertKind} {n n' : Nat} :
    (if n = 1 then k.word else k.word ++ " x" ++ toString n) =
      (if n' = 1 then k'.word else k'.word ++ " x" ++ toString n') ↔ k = k' ∧ n = n' := by
  refine ⟨fun h => ?_, by rintro ⟨rfl, rfl⟩; rfl⟩
  obtain rfl : k = k' := by
    have hfirst : ∀ (k : AlertKind) (n : Nat),
        (if n = 1 then k.word else k.word ++ " x" ++ toString n).toList.head? =
          k.word.toList.head? := by
      intro k n
      split
      · rfl
      · cases k <;> simp [AlertKind.word]
    have hheads := congrArg (·.toList.head?) h
    simp only [hfirst] at hheads
    revert hheads
    cases k <;> cases k' <;> decide
  refine ⟨rfl, ?_⟩
  split at h <;> split at h
  · omega
  · rw [String.append_assoc, eq_comm, String.append_eq_left_iff, String.append_eq_empty_iff] at h
    exact absurd h.1 (by decide)
  · rw [String.append_assoc, String.append_eq_left_iff, String.append_eq_empty_iff] at h
    exact absurd h.1 (by decide)
  · rwa [String.append_right_inj, toString_inj] at h

theorem heading_append_inj {k k' : AlertKind} {n n' : Nat} :
    heading k.word n ++ r = heading k'.word n' ++ r' ↔ (k = k' ∧ n = n') ∧ r = r' := by
  rw [heading, heading, @String.append_assoc (bold _) "\n" r, @String.append_assoc (bold _) "\n" r',
    bold_append_inj (inline_title k n).lt_notMem (inline_title k' n').lt_notMem, title_inj,
    String.append_right_inj]

/-- **When two new messages are the same**: they tell the category, the time that they show, and
the targets. -/
theorem groupText_eq_iff : groupText (e :: es) = groupText (e' :: es') ↔
    e.category = e'.category ∧ e.occurred.text = e'.occurred.text ∧
      (e :: es).map Event.identity = (e' :: es').map Event.identity := by
  have hne : ∀ e : Event, "\n" ++ targetLine e ≠ "" := fun e h =>
    absurd (String.append_eq_empty_iff.mp h).1 (by decide)
  have hline : ∀ e e' r r', "\n" ++ targetLine e ++ r = "\n" ++ targetLine e' ++ r' ↔
      e.identity = e'.identity ∧ r = r' := by
    intro e e' r r'
    rw [String.append_assoc, String.append_assoc, String.append_right_inj, targetLine_append_inj]
  have htargets := join_map_inj Event.identity Event.identity hne hne hline (e :: es) (e' :: es')
  simp only [groupText, String.append_assoc]
  rw [heading_append_inj, field_append_inj e.reason.inline_word e'.reason.inline_word,
    field_append_inj e.occurred.inline_text e'.occurred.inline_text, String.append_right_inj,
    htargets, AlertReason.word_inj, Event.category, Event.category, Category.mk.injEq]
  constructor
  · rintro ⟨⟨hkind, -⟩, hreason, htime, hmap⟩
    exact ⟨⟨hkind, hreason⟩, htime, hmap⟩
  · rintro ⟨⟨hkind, hreason⟩, htime, hmap⟩
    exact ⟨⟨hkind, by simpa using congrArg List.length hmap⟩, hreason, htime, hmap⟩

/-- **When two messages about an outage that has ended are the same**: they tell the target, the
reason and all three times. -/
theorem recoveredText_eq_iff : recoveredText e p = recoveredText e' p' ↔
    e.identity = e'.identity ∧ e.reason = e'.reason ∧ p.downAt.text = p'.downAt.text ∧
      e.occurred.text = e'.occurred.text ∧
      (e.occurred - p.downAt).short = (e'.occurred - p'.downAt).short := by
  simp only [recoveredText, String.append_assoc, String.append_right_inj]
  rw [field_append_inj e.reason.inline_word e'.reason.inline_word,
    field_append_inj p.downAt.inline_text p'.downAt.inline_text,
    field_append_inj e.occurred.inline_text e'.occurred.inline_text,
    field_append_inj (Span.inline_short _) (Span.inline_short _), String.append_right_inj,
    AlertReason.word_inj]
  have hline := @targetLine_append_inj e e' "" ""
  rw [String.append_empty, String.append_empty] at hline
  rw [hline]
  constructor
  · rintro ⟨hreason, hdown, hup, hspan, hid, -⟩
    exact ⟨hid, hreason, hdown, hup, hspan⟩
  · rintro ⟨hid, hreason, hdown, hup, hspan⟩
    exact ⟨hreason, hdown, hup, hspan, hid, rfl⟩

/-- What the message about a group tells of a member that came back. -/
def memberTold (g : PendingGroup) (e : Event) : Identity × String × String :=
  (e.identity, e.occurred.text, (e.occurred - g.downAtOf e.target).short)

theorem memberText_append_inj {g g' : PendingGroup} :
    memberText g e ++ r = memberText g' e' ++ r' ↔ memberTold g e = memberTold g' e' ∧ r = r' := by
  simp only [memberText, String.append_assoc, String.append_right_inj]
  rw [targetLine_append_inj, String.append_right_inj,
    field_append_inj e.occurred.inline_text e'.occurred.inline_text, String.append_right_inj,
    code_append_inj (Span.inline_short _).lt_notMem (Span.inline_short _).lt_notMem,
    memberTold, memberTold, Prod.mk.injEq, Prod.mk.injEq, and_assoc, and_assoc]

/-- The title of an edited message can be told from what follows it. -/
theorem lt_notMem_recoveredTitle (n : Nat) :
    '<' ∉ ("DOWN -> RECOVERED x" ++ toString n).toList := by
  have htitle : '<' ∉ "DOWN -> RECOVERED x".toList := by decide
  simp only [String.toList_append, List.mem_append, htitle, (inline_toString n).lt_notMem, or_self,
    not_false_eq_true]

/-- **When two messages about a group that came back are the same**: they tell the reason, the time
of the last recovery, and the target and both times of every member. -/
theorem groupRecoveredText_eq_iff {g g' : PendingGroup} :
    groupRecoveredText g (e :: es) = groupRecoveredText g' (e' :: es') ↔
      e.reason = e'.reason ∧
        (es.foldl (fun t e => Instant.later t e.occurred) e.occurred).text =
          (es'.foldl (fun t e => Instant.later t e.occurred) e'.occurred).text ∧
        (sortByName Event.target (e :: es)).map (memberTold g) =
          (sortByName Event.target (e' :: es')).map (memberTold g') := by
  have hne : ∀ (g : PendingGroup) (e : Event), memberText g e ≠ "" := by
    intro g e h
    simp only [memberText, String.append_eq_empty_iff] at h
    exact absurd h.1.1.1.1.1 (by decide)
  have hmembers := join_map_inj (memberTold g) (memberTold g') (hne g) (hne g')
    (fun _ _ _ _ => memberText_append_inj) (sortByName Event.target (e :: es))
    (sortByName Event.target (e' :: es'))
  simp only [groupRecoveredText, String.append_assoc]
  rw [bold_append_inj (lt_notMem_recoveredTitle _) (lt_notMem_recoveredTitle _),
    String.append_right_inj, String.append_right_inj, toString_inj,
    field_append_inj e.reason.inline_word e'.reason.inline_word,
    field_append_inj (Instant.inline_text _) (Instant.inline_text _), String.append_right_inj,
    hmembers, AlertReason.word_inj]
  constructor
  · rintro ⟨-, hreason, htime, hmap⟩
    exact ⟨hreason, htime, hmap⟩
  · rintro ⟨hreason, htime, hmap⟩
    have hlength := congrArg List.length hmap
    rw [List.length_map, List.length_map, (sortByName_perm _ _).length_eq,
      (sortByName_perm _ _).length_eq] at hlength
    exact ⟨hlength, hreason, htime, hmap⟩

/-- The title of a new message shows that it is no edited one. -/
theorem groupText_ne_edited {title rest : String} (hedited : '>' ∈ title.toList)
    (htag : '<' ∉ title.toList) : groupText (e :: es) ≠ bold title ++ rest := by
  intro h
  have htitle := inline_title e.kind (es.length + 1)
  simp only [groupText, String.append_assoc] at h
  rw [heading, @String.append_assoc (bold _), bold_append_inj htitle.lt_notMem htag] at h
  rw [h.1] at htitle
  exact absurd (htitle _ hedited).1 (by decide)

theorem groupText_ne_recoveredText : groupText (e :: es) ≠ recoveredText e' p := by
  simp only [recoveredText, String.append_assoc]
  exact groupText_ne_edited (by decide) (by decide)

theorem groupText_ne_groupRecoveredText {g : PendingGroup} :
    groupText (e :: es) ≠ groupRecoveredText g (e' :: es') := by
  simp only [groupRecoveredText, String.append_assoc]
  refine groupText_ne_edited ?_ (lt_notMem_recoveredTitle _)
  rw [String.toList_append]
  exact List.mem_append_left _ (by decide)

/-- A message about one target is no message about a group, whatever its count. -/
theorem recoveredText_ne_groupRecoveredText {g : PendingGroup} :
    recoveredText e p ≠ groupRecoveredText g (e' :: es') := by
  intro h
  simp only [recoveredText, groupRecoveredText, String.append_assoc] at h
  rw [bold_append_inj (by decide) (lt_notMem_recoveredTitle _)] at h
  have hsize := congrArg (·.toList.length) h.1
  simp only [String.toList_append, List.length_append] at hsize
  exact absurd hsize (Nat.ne_of_lt (Nat.lt_of_lt_of_le (by decide) (Nat.le_add_right _ _)))

/-- **Messages tell which events they are about**, whatever characters there are in names and
addresses: new messages are the same only if their events are of one category and as many, with the
same time of the first one, and have place by place the same name, address and port. -/
theorem texts_tell {c c' : Category} {events events' : List Event} (hne : events ≠ [])
    (hne' : events' ≠ []) (hcategory : ∀ e ∈ events, e.category = c)
    (hcategory' : ∀ e ∈ events', e.category = c') :
    (groupText events = groupText events' ↔ c = c' ∧
      events.head?.map (·.occurred.text) = events'.head?.map (·.occurred.text) ∧
      events.map Event.identity = events'.map Event.identity) ∧
    (∀ e p e' p', recoveredText e p = recoveredText e' p' ↔
      e.identity = e'.identity ∧ e.reason = e'.reason ∧ p.downAt.text = p'.downAt.text ∧
        e.occurred.text = e'.occurred.text ∧
        (e.occurred - p.downAt).short = (e'.occurred - p'.downAt).short) ∧
    ∀ e p, groupText events ≠ recoveredText e p := by
  obtain ⟨e, es, rfl⟩ := List.exists_cons_of_ne_nil hne
  obtain ⟨e', es', rfl⟩ := List.exists_cons_of_ne_nil hne'
  refine ⟨?_, fun _ _ _ _ => recoveredText_eq_iff, fun _ _ => groupText_ne_recoveredText⟩
  rw [groupText_eq_iff, hcategory e List.mem_cons_self, hcategory' e' List.mem_cons_self]
  simp only [List.head?_cons, Option.map_some, Option.some_inj]

/-- A target whose name looks like the end of a line and the next line is one target still. -/
theorem texts_tell_forged :
    let forged : Event :=
      ⟨.down, "a</code> (<code>h:1</code>)\n- <code>b", "h", 2, .stateChange, ⟨0⟩⟩
    let a : Event := ⟨.down, "a", "h", 1, .stateChange, ⟨0⟩⟩
    let b : Event := ⟨.down, "b", "h", 2, .stateChange, ⟨0⟩⟩
    groupText [forged] ≠ groupText [a, b] := by
  intro forged a b h
  have hforged : ∀ e ∈ [forged], e.category = .outage := by decide
  have hboth : ∀ e ∈ [a, b], e.category = .outage := by decide
  have htell := texts_tell (List.cons_ne_nil forged []) (List.cons_ne_nil a [b]) hforged hboth
  have hcount := congrArg List.length (htell.1.mp h).2.2
  exact absurd hcount (by decide)

end

end Alert

end Uptime
