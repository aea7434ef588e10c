import Uptime.Proofs.Entries
import Uptime.Proofs.Posts

/-!
# Parts of messages about targets

A message that is too long is posted in parts, each of which has to be well-formed markup by itself.
No part cuts a tag or an entity. But a name may have a newline inside, and a part that ends there
leaves the tag around the name open.

## Main definitions

* `Post.Regular`: a message about accepted targets, with what it says about each of them in one part.
* `Post.Torn`: a message of which a part ends within a row.
* `tornPost`: a message of which a part ends within a name.

## Main results

* `exists_tornPost`: every name with a newline inside can tear a message.
* `Post.wellFormed_parts`: when all parts are well-formed markup.
-/

namespace Uptime

open Text

/-- Name, address and port are those of a well-formed entry. -/
def Identity.Accepted (id : Identity) : Prop :=
  ∃ name address port, Definition.ofEntry name address port = .ok ⟨id.name, id.address, id.port, true⟩

theorem Identity.Accepted.checkName_eq {id : Identity} (h : id.Accepted) :
    checkName id.name = .ok id.name := by
  obtain ⟨name, address, port, hentry⟩ := h
  obtain ⟨hname, -, -, hd⟩ := Definition.ofEntry_eq_ok_iff.mp hentry
  obtain ⟨hid, -⟩ := Definition.mk.inj hd
  rw [hid]
  exact checkName_eq_ok_iff.mpr ⟨by rwa [trim_trim], (trim_trim name).symm⟩

/-- An accepted address has no newline. -/
theorem Identity.Accepted.newline_notMem {id : Identity} (h : id.Accepted) :
    '\n' ∉ id.address.toList := by
  obtain ⟨name, address, port, hentry⟩ := h
  obtain ⟨-, ⟨-, hblank⟩, -, hd⟩ := Definition.ofEntry_eq_ok_iff.mp hentry
  obtain ⟨-, haddress, -⟩ := Definition.mk.inj hd
  rw [← haddress] at hblank
  exact newline_notMem_of_any_isBlank hblank

/-- A message about accepted targets. What it says about each of them fits one part, newlines at the
end apart. -/
structure Post.Regular (p : Post) : Prop where
  inRange : p.InRange
  accepted : ∀ id ∈ p.identities, id.Accepted
  size_le : ∀ entry ∈ p.entries, byteCount (trimEnd entry.toList) ≤ maxMessageBytes

/-- A part of a message ends within one of its rows. -/
def Post.Torn (p : Post) : Prop :=
  ∃ front, front <+: portions maxMessageBytes p.text ∧
    DividesRow (p.rows.map String.toList) front.flatten

/-! ### Parts that end within a name -/

/-- What ends within a name behind a tag that opens is not well-formed. -/
theorem not_wellFormed_opening {before : List Char} (h : WellFormed before) (t : Tag)
    (name : List Char) :
    ¬ WellFormed (before ++ (Token.opening t).text ++ escapeChars name ++ ['\n']) := by
  intro htorn
  have heven := htorn.even_count
  have hbefore := h.even_count
  have hone : (Token.opening t).text.count '<' = 1 := by cases t <;> rfl
  have hname : (escapeChars name).count '<' = 0 :=
    List.count_eq_zero_of_not_mem (lt_notMem_escapeChars name)
  have hnewline : ['\n'].count '<' = 0 := rfl
  rw [List.count_append, List.count_append, List.count_append, hone, hname, hnewline] at heven
  omega

/-- An outage of a target. -/
def outageOf (name address : String) : Event := ⟨.down, name, address, 1, .stateChange, ⟨0⟩⟩

/-- The outage of a target whose address has `n` characters. -/
def remoteOutage (n : Nat) : Event := outageOf "a" (String.ofList (List.replicate n 'x'))

/-- An alert about two targets. The second one has a name of which a part of the message may end
within, depending on `n`. -/
def tornPost (name : String) (n : Nat) : Post := .alert [remoteOutage n, outageOf name "h"]

theorem byteCount_targetLine (e : Event) : byteCount (Alert.targetLine e).toList =
    byteCount (escapeChars e.target.toList) + byteCount (escapeChars e.address.toList)
      + byteCount (toString e.port.toNat).toList + 32 := by
  have hdash : byteCount "- ".toList = 2 := rfl
  have hopen : byteCount " (".toList = 2 := rfl
  have hclose : byteCount ")".toList = 1 := rfl
  have hcolon : byteCount ":".toList = 1 := rfl
  simp only [Alert.targetLine, escape, String.toList_append, String.toList_ofList, byteCount_append,
    byteCount_code, hdash, hopen, hclose, hcolon]
  omega

theorem escapeChars_replicate (n : Nat) :
    escapeChars (List.replicate n 'x') = List.replicate n 'x' :=
  escapeChars_eq_self fun _ hc => List.eq_of_mem_replicate hc ▸ rfl

theorem byteCount_remoteLine (n : Nat) :
    byteCount (Alert.targetLine (remoteOutage n)).toList = n + 34 := by
  have hname : byteCount (escapeChars "a".toList) = 1 := by decide
  have haddress : byteCount (escapeChars (remoteOutage n).address.toList) = n := by
    have heq : (remoteOutage n).address.toList = List.replicate n 'x' := String.toList_ofList
    rw [heq, escapeChars_replicate, byteCount_replicate]
    exact Nat.mul_one n
  have hport : byteCount (toString (1 : UInt16).toNat).toList = 1 := by decide
  have hline := byteCount_targetLine (remoteOutage n)
  rw [haddress] at hline
  exact hline.trans (by dsimp only [remoteOutage, outageOf]; omega)

/-- The first rows of the alert. -/
def tornHead : String :=
  bold "DOWN x2" ++ "\nreason: " ++ code "state-change" ++ "\ntime_utc: "
    ++ code "1970-01-01T00:00:00Z" ++ "\ntargets:\n"

theorem wellFormed_tornHead : WellFormed tornHead.toList := by
  have hplain : ∀ s : String, Plain s.toList → WellFormed s.toList :=
    fun _ => wellFormed_of_plain
  have htitle := wellFormed_bold (hplain "DOWN x2" (by decide))
  have hreason := wellFormed_code (hplain "state-change" (by decide))
  have htime := wellFormed_code (hplain "1970-01-01T00:00:00Z" (by decide))
  have hfirst := wellFormed_append (wellFormed_append htitle (hplain "\nreason: " (by decide))) hreason
  exact wellFormed_append (wellFormed_append
    (wellFormed_append hfirst (hplain "\ntime_utc: " (by decide))) htime)
    (hplain "\ntargets:\n" (by decide))

theorem text_tornPost (name : String) (n : Nat) : (tornPost name n).text =
    tornHead ++ Alert.targetLine (remoteOutage n) ++ "\n" ++ Alert.targetLine (outageOf name "h") := by
  have htitle : AlertKind.down.word ++ " x" ++ Nat.repr 2 = "DOWN x2" := by decide
  have hreason : AlertReason.stateChange.word = "state-change" := rfl
  have htime : (⟨0⟩ : Instant).text = "1970-01-01T00:00:00Z" := by decide +kernel
  rw [← String.toList_inj]
  simp [Post.text, tornPost, tornHead, Alert.groupText, Alert.heading, Alert.field, remoteOutage,
    outageOf, htitle, hreason, htime]

theorem accepted_identity_outageOf {name address : String} (hname : checkName name = .ok name)
    (haddress : checkAddress address = .ok address) : (outageOf name address).identity.Accepted := by
  obtain ⟨hn, hname⟩ := checkName_eq_ok_iff.mp hname
  obtain ⟨ha, haddress⟩ := checkAddress_eq_ok_iff.mp haddress
  refine ⟨name, address, 1, Definition.ofEntry_eq_ok_iff.mpr ⟨hn, ha, by decide, ?_⟩⟩
  rw [← hname, ← haddress]
  rfl

theorem regular_tornPost {name : String} {n : Nat} (hname : checkName name = .ok name)
    (hpos : 0 < n) (hn : n ≤ 3854) : (tornPost name n).Regular := by
  refine ⟨⟨?_, ?_⟩, ?_, ?_⟩
  · show 2 < 2 ^ 64
    decide
  · have htime : (⟨0⟩ : Instant).Representable := by decide
    intro e he
    rcases List.mem_pair.mp he with rfl | rfl <;> exact htime
  · intro id hid
    rcases List.mem_pair.mp hid with rfl | rfl
    · exact accepted_identity_outageOf (by decide) (checkAddress_replicate hpos)
    · exact accepted_identity_outageOf hname (by decide)
  · intro entry hentry
    rcases List.mem_pair.mp hentry with rfl | rfl
    · rw [(guarded_targetLine _).trimEnd_eq, byteCount_remoteLine, maxMessageBytes]
      omega
    · have hsize := byteCount_escapeChars_of_checkName hname
      have haddress : byteCount (escapeChars "h".toList) = 1 := by decide
      have hport : byteCount (toString (1 : UInt16).toNat).toList = 1 := by decide
      rw [(guarded_targetLine _).trimEnd_eq, byteCount_targetLine, maxMessageBytes]
      dsimp only [outageOf]
      omega

/-- What stands in front of the name of the second target. -/
def tornOpening (n : Nat) : List Char :=
  tornHead.toList ++ (Alert.targetLine (remoteOutage n)).toList ++ "\n- ".toList

theorem wellFormed_tornOpening (n : Nat) : WellFormed (tornOpening n) :=
  (wellFormed_tornHead.append (guarded_targetLine _).wellFormed).append (wellFormed_of_plain (by decide))

theorem byteCount_tornOpening (n : Nat) : byteCount (tornOpening n) = n + 139 := by
  have hhead : byteCount tornHead.toList = 102 := by decide
  have hdash : byteCount "\n- ".toList = 3 := rfl
  rw [tornOpening, byteCount_append, byteCount_append, hhead, byteCount_remoteLine, hdash]
  omega

/-- The text of the message, split behind the newline in the name. -/
theorem exists_toList_text_tornPost (n : Nat) {name : String} {left right : List Char}
    (h : name.toList = left ++ '\n' :: right) : ∃ rest ≠ [], (tornPost name n).text.toList =
      tornOpening n ++ (Token.opening .code).text ++ escapeChars left ++ ['\n'] ++ rest := by
  have hescape : escapeChars name.toList = escapeChars left ++ '\n' :: escapeChars right := by
    rw [h, escapeChars_append, escapeChars_cons]
    rfl
  refine ⟨escapeChars right ++ "</code> (".toList
    ++ (code (escape "h" ++ ":" ++ toString (1 : UInt16).toNat) ++ ")").toList, by simp, ?_⟩
  rw [text_tornPost]
  simp [tornOpening, Alert.targetLine, outageOf, code, escape, hescape, Token.text, Tag.word]

/-- **Whatever name has a newline inside, some message about it is torn there.** -/
theorem exists_tornPost {name : String} (hname : checkName name = .ok name)
    (hmem : '\n' ∈ name.toList) : ∃ n, (tornPost name n).Regular ∧
      ¬ ∀ part ∈ Bot.parts (tornPost name n).text, WellFormed part.toList := by
  obtain ⟨left, right, hsplit⟩ := List.append_of_mem hmem
  have hleft : byteCount (escapeChars left) ≤ 500 := by
    have hsize := byteCount_escapeChars_of_checkName hname
    rw [hsplit, escapeChars_append, byteCount_append] at hsize
    omega
  -- the first portion is full right behind the newline
  obtain ⟨n, hn⟩ : ∃ n, n + byteCount (escapeChars left) = 3854 :=
    ⟨3854 - byteCount (escapeChars left), Nat.sub_add_cancel (by omega)⟩
  obtain ⟨rest, hrest, htext⟩ := exists_toList_text_tornPost n hsplit
  have hfull : byteCount
      (tornOpening n ++ (Token.opening .code).text ++ escapeChars left ++ ['\n']) =
        chunkSize maxMessageBytes := by
    have htag : byteCount (Token.opening .code).text = 6 := rfl
    have hnewline : byteCount ['\n'] = 1 := rfl
    have hsize : chunkSize maxMessageBytes = 4000 := by decide
    rw [byteCount_append, byteCount_append, byteCount_append, byteCount_tornOpening, htag, hnewline,
      hsize]
    omega
  refine ⟨n, regular_tornPost hname (by omega) (by omega), fun hformed => ?_⟩
  have hfirst := cancellative_wellFormed.forall_chunks_iff.mp hformed _
    (singleton_prefix_portions htext (by simp) hrest hfull)
  rw [List.flatten_singleton] at hfirst
  exact not_wellFormed_opening (wellFormed_tornOpening n) .code left hfirst

/-! ### All parts -/

namespace Post

variable {p : Post}

/-- The rows of a regular message. -/
theorem Regular.fitRow (hp : p.Regular) :
    ∀ row ∈ p.rows, FitRow (chunkSize maxMessageBytes) p.identities row :=
  fitRow_of_mem_rows (by decide) hp.inRange hp.size_le

theorem Regular.guarded_row (hp : p.Regular) : ∀ row ∈ p.rows.map String.toList,
    Guarded row ∧ byteCount row ≤ chunkSize maxMessageBytes :=
  List.forall_mem_map.mpr fun row hrow => ⟨(hp.fitRow row hrow).guarded, (hp.fitRow row hrow).size_le⟩

theorem map_rows_ne_nil (p : Post) : p.rows.map String.toList ≠ [] := by
  simpa using p.rows_ne_nil

/-- **All parts are well-formed exactly if none ends within a row.** -/
theorem forall_wellFormed_iff (hp : p.Regular) :
    (∀ part ∈ Bot.parts p.text, WellFormed part.toList) ↔ ¬ p.Torn := by
  rw [Torn, not_exists]
  simp only [not_and]
  exact wellFormed_chunks_iff p.toList_text p.map_rows_ne_nil hp.guarded_row

/-- What it takes for a message to be torn. -/
theorem Torn.exists_newline (hp : p.Regular) (h : p.Torn) :
    maxMessageBytes < p.text.utf8ByteSize ∧ ∃ id ∈ p.identities, '\n' ∈ id.name.toList := by
  obtain ⟨front, hfront, hdivides⟩ := h
  refine ⟨lt_of_dividesRow p.toList_text hfront hdivides, ?_⟩
  obtain ⟨chars, hchars, hmem⟩ := newline_mem_of_dividesRow p.toList_text
    (fun row hrow => (hp.guarded_row row hrow).2) hfront hdivides
  obtain ⟨row, hrow, rfl⟩ := List.mem_map.mp hchars
  obtain ⟨id, hid, hname | haddress⟩ := (hp.fitRow row hrow).newline hmem
  · exact ⟨id, hid, hname⟩
  · exact absurd haddress (hp.accepted id hid).newline_notMem

end Post

/-- **When all parts of a message are well-formed markup.** No part cuts a tag or an entity, or has
any other character with a meaning in markup. All parts are well-formed exactly if none ends within a
row, and one does so only if the message is too long for one part and a name has a newline inside.
But whatever name has a newline inside, some message about a target of that name is torn. -/
theorem Post.wellFormed_parts (p : Post) (hp : p.Regular) :
    (∀ part ∈ Bot.parts p.text, Whole part.toList) ∧
    ((∀ part ∈ Bot.parts p.text, WellFormed part.toList) ↔ ¬ p.Torn) ∧
    (p.Torn → maxMessageBytes < p.text.utf8ByteSize ∧
      ∃ id ∈ p.identities, '\n' ∈ id.name.toList) ∧
    ∀ id ∈ p.identities, '\n' ∈ id.name.toList →
      ∃ p' : Post, p'.Regular ∧ (∃ id' ∈ p'.identities, id'.name = id.name) ∧ p'.Torn := by
  refine ⟨whole_chunks_of_rows p.toList_text fun row hrow => ?_, forall_wellFormed_iff hp,
    Torn.exists_newline hp, fun id hid hmem => ?_⟩
  · exact ⟨(hp.guarded_row row hrow).1.wellFormed, (hp.guarded_row row hrow).2⟩
  · obtain ⟨n, hregular, htorn⟩ := exists_tornPost (hp.accepted id hid).checkName_eq hmem
    refine ⟨tornPost id.name n, hregular, ⟨_, List.mem_cons_of_mem _ List.mem_cons_self, rfl⟩, ?_⟩
    by_contra hwhole
    exact htorn ((forall_wellFormed_iff hregular).mpr hwhole)

/-- A name with a newline inside does no harm in a short alert. In some longer one it does. Without
the newline, two targets are no danger to each other, whatever takes the space. -/
theorem Post.wellFormed_parts_newline :
    (tornPost "b\nc" 1).Regular ∧
      (∀ part ∈ Bot.parts (tornPost "b\nc" 1).text, WellFormed part.toList) ∧
      (∃ p' : Post, p'.Regular ∧ (∃ id' ∈ p'.identities, id'.name = "b\nc") ∧ p'.Torn) ∧
      (tornPost "b" 3853).Regular ∧
      ∀ part ∈ Bot.parts (tornPost "b" 3853).text, WellFormed part.toList := by
  have hshort : (tornPost "b\nc" 1).Regular :=
    regular_tornPost (by decide) (by decide) (by decide)
  have hlong : (tornPost "b" 3853).Regular :=
    regular_tornPost (by decide) (by decide) (by decide)
  obtain ⟨-, hiff, htooLong, htorn⟩ := wellFormed_parts (tornPost "b\nc" 1) hshort
  have hid : (outageOf "b\nc" "h").identity ∈ (tornPost "b\nc" 1).identities :=
    List.mem_cons_of_mem _ List.mem_cons_self
  have hfits : (tornPost "b\nc" 1).text.utf8ByteSize ≤ maxMessageBytes := by decide +kernel
  obtain ⟨-, hiff', hnames, -⟩ := wellFormed_parts (tornPost "b" 3853) hlong
  refine ⟨hshort, hiff.mpr fun h => absurd hfits (not_le.mpr (htooLong h).1),
    htorn _ hid (by decide), hlong, hiff'.mpr fun h => ?_⟩
  obtain ⟨-, id, hid, hmem⟩ := hnames h
  rcases List.mem_pair.mp hid with rfl | rfl
  · exact absurd hmem (show '\n' ∉ "a".toList by decide)
  · exact absurd hmem (show '\n' ∉ "b".toList by decide)

end Uptime
