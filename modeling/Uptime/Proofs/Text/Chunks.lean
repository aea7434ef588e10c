import Mathlib.Data.List.Induction
import Mathlib.Order.Nat
import Uptime.Proofs.Text.Lines

/-!
# Chunks

A text that is too long is cut into chunks, and nothing but newlines is lost. A line that fits is in
one chunk with all its characters; a line that does not is cut as late as possible, and what is left
over of it at the end begins the next chunk, which further lines may join.

## Main definitions

* `Cuts`: how a line is cut into pieces.
* `Within`: some characters stand within one part of a text.
* `Filling.Packs`: how some lines are packed into parts.
* `chunkSize`: how many bytes a chunk may have.
* `laidOut`: chunks with the newlines behind them.
* `Places`, `Chunked`: where the chunks of some parts, and of a text, stand.

## Main results

* `cuts_piecesOf`: a line is cut in finitely many steps.
* `Filling.Packs.addLine`: what one more line comes to.
* `chunked_of_places`: lines that are packed into parts leave chunks in their places.
* `chunked_chunks`: how a text is cut into chunks.
-/

namespace Uptime.Text

/-! ### Pieces -/

/-- How a line is cut: as long as it is too long, the longest beginning that fits is cut off. -/
inductive Cuts (limit : Nat) : List Char → List (List Char) → Prop
  /-- What fits is left as it is. -/
  | last {line : List Char} (hfits : byteCount line ≤ limit) : Cuts limit line [line]
  /-- A piece is cut off that could not have one character more. -/
  | cut {piece rest : List Char} {pieces : List (List Char)}
      (hlong : limit < byteCount (piece ++ rest)) (hne : piece ≠ [])
      (hfits : byteCount piece ≤ limit)
      (hnext : ∀ c ∈ rest.head?, limit < byteCount piece + c.utf8Size)
      (hrest : Cuts limit rest pieces) : Cuts limit (piece ++ rest) (piece :: pieces)

section

variable {limit room : Nat} {line cs : List Char} {pieces : List (List Char)}

theorem piecesOf_of_le (h : byteCount cs ≤ room) : piecesOf limit room cs = [cs] := by
  induction cs generalizing room with
  | nil => rfl
  | cons c cs ih =>
    rw [byteCount_cons] at h
    rw [piecesOf, if_pos (Nat.le_of_add_right_le h), ih (Nat.le_sub_of_add_le' h)]
    rfl

/-- The first piece is as long as it may be, and the rest is cut as if nothing had come before. -/
theorem piecesOf_of_lt (hlimit : leastChunkSize ≤ limit) (h : room < byteCount cs) :
    ∃ piece rest, cs = piece ++ rest ∧ byteCount piece ≤ room ∧
      (∀ c ∈ rest.head?, room < byteCount piece + c.utf8Size) ∧
      piecesOf limit room cs = piece :: piecesOf limit limit rest := by
  induction cs generalizing room with
  | nil => exact absurd h (Nat.not_lt_zero room)
  | cons c cs ih =>
    rw [byteCount_cons] at h
    rw [piecesOf]
    split
    · next hc =>
      obtain ⟨piece, rest, rfl, hfits, hnext, heq⟩ := ih (Nat.sub_lt_left_of_lt_add hc h)
      refine ⟨c :: piece, rest, rfl, ?_, fun d hd => ?_, by rw [heq]; rfl⟩
      · rw [byteCount_cons]
        omega
      · have := hnext d hd
        rw [byteCount_cons]
        omega
    · next hc =>
      refine ⟨[], c :: cs, rfl, Nat.zero_le room, fun d hd => ?_, ?_⟩
      · obtain rfl := Option.some.inj hd
        simpa using hc
      · -- the least size leaves room for any character
        have hfirst : piecesOf limit limit (c :: cs) =
            consToFirst c (piecesOf limit (limit - c.utf8Size) cs) := by
          rw [piecesOf, if_pos (c.utf8Size_le_four.trans hlimit)]
        rw [hfirst]

/-- **A line is cut in finitely many steps.** -/
theorem cuts_piecesOf (hlimit : leastChunkSize ≤ limit) (line : List Char) :
    Cuts limit line (piecesOf limit limit line) := by
  induction hlength : line.length using Nat.strongRecOn generalizing line with
  | _ n ih =>
    by_cases hfits : byteCount line ≤ limit
    · rw [piecesOf_of_le hfits]
      exact .last hfits
    · obtain ⟨piece, rest, rfl, hpiece, hnext, heq⟩ := piecesOf_of_lt hlimit (not_le.mp hfits)
      -- no character is too long for a piece
      have hne : piece ≠ [] := by
        rintro rfl
        cases rest with
        | nil => exact hfits (Nat.zero_le limit)
        | cons c rest =>
          have hc := hnext c rfl
          rw [byteCount_nil, Nat.zero_add] at hc
          exact absurd (c.utf8Size_le_four.trans hlimit) (not_le.mpr hc)
      have hshorter : rest.length < n := by
        rw [← hlength, List.length_append]
        exact Nat.lt_add_of_pos_left (List.length_pos_iff.mpr hne)
      rw [heq]
      exact .cut (not_le.mp hfits) hne hpiece hnext (ih _ hshorter rest rfl)

theorem Cuts.ne_nil (h : Cuts limit line pieces) : pieces ≠ [] := by
  cases h <;> simp

theorem Cuts.flatten_eq (h : Cuts limit line pieces) : pieces.flatten = line := by
  induction h with
  | last hfits => simp
  | cut _ _ _ _ _ ih => rw [List.flatten_cons, ih]

theorem Cuts.size_le (h : Cuts limit line pieces) : ∀ piece ∈ pieces, byteCount piece ≤ limit := by
  induction h with
  | last hfits => simpa using hfits
  | cut _ _ hfits _ _ ih => exact List.forall_mem_cons.mpr ⟨hfits, ih⟩

/-- A line that fits is not cut. -/
theorem Cuts.eq_singleton (h : Cuts limit line pieces) (hfits : byteCount line ≤ limit) :
    pieces = [line] := by
  cases h with
  | last _ => rfl
  | cut hlong _ _ _ _ => exact absurd hfits (not_le.mpr hlong)

end

/-! ### Filling chunks -/

/-- What stands in a list with one thing more stood there before, or is the thing itself. -/
theorem concat_eq_append_cons {α : Type} {xs ys zs : List α} {x y : α}
    (h : xs ++ [x] = ys ++ y :: zs) :
    (ys = xs ∧ y = x ∧ zs = []) ∨ ∃ zs', zs = zs' ++ [x] ∧ xs = ys ++ y :: zs' := by
  rcases List.eq_nil_or_concat' zs with rfl | ⟨zs, z, rfl⟩
  · obtain ⟨rfl, hlast⟩ := List.append_inj' h rfl
    exact .inl ⟨rfl, (List.singleton_inj.mp hlast).symm, rfl⟩
  · rw [← List.cons_append, ← List.append_assoc] at h
    obtain ⟨rfl, hlast⟩ := List.append_inj' h rfl
    exact .inr ⟨zs, by rw [hlast], rfl⟩

/-- The characters `content` stand within one of the parts of a text, behind `before`. -/
def Within (parts : List (List Char)) (before content : List Char) : Prop :=
  ∃ earlier left right later, parts = earlier ++ (left ++ content ++ right) :: later ∧
    before = earlier.flatten ++ left

/-- They stand within the first part, or within one of the others. -/
theorem within_cons_iff {part : List Char} {parts : List (List Char)} {before content : List Char} :
    Within (part :: parts) before content ↔ (∃ right, part = before ++ content ++ right) ∨
      ∃ before', Within parts before' content ∧ before = part ++ before' := by
  constructor
  · rintro ⟨earlier, left, right, later, hparts, rfl⟩
    cases earlier with
    | nil => exact .inl ⟨right, (List.cons_eq_cons.mp hparts).1⟩
    | cons e earlier =>
      obtain ⟨rfl, rfl⟩ := List.cons_eq_cons.mp hparts
      exact .inr ⟨_, ⟨earlier, left, right, later, rfl, rfl⟩, by simp⟩
  · rintro (⟨right, rfl⟩ | ⟨_, ⟨earlier, left, right, later, rfl, rfl⟩, rfl⟩)
    · exact ⟨[], before, right, parts, rfl, rfl⟩
    · exact ⟨part :: earlier, left, right, later, rfl, by simp⟩

/-- They stay there if the last part grows and others follow. -/
theorem Within.grow {full more : List (List Char)} {current x before content : List Char}
    (h : Within (full ++ [current]) before content) :
    Within (full ++ (current ++ x) :: more) before content := by
  obtain ⟨earlier, left, right, later, hparts, rfl⟩ := h
  rcases concat_eq_append_cons hparts with ⟨rfl, rfl, rfl⟩ | ⟨later, rfl, rfl⟩
  · exact ⟨earlier, left, right ++ x, more, by simp, rfl⟩
  · exact ⟨earlier, left, right, later ++ (current ++ x) :: more, by simp, rfl⟩

namespace Filling

variable {limit : Nat} {f : Filling} {line : List Char} {lines : List (List Char)}

/-- The parts of a filling, with the one that is being filled. -/
def parts (f : Filling) : List (List Char) := f.full ++ [f.current]

/-- What a line adds to the current part, and the parts that follow. -/
theorem exists_parts_addLine (hlimit : leastChunkSize ≤ limit) (f : Filling) (line : List Char) :
    ∃ x more, (f.addLine limit line).parts = f.full ++ (f.current ++ x) :: more ∧
      x ++ more.flatten = line ∧
      (byteCount f.current ≤ limit → ∀ part ∈ (f.current ++ x) :: more, byteCount part ≤ limit) ∧
      (byteCount line ≤ limit → x = line ∧ more = [] ∨ x = [] ∧ more = [line]) := by
  have hcuts := cuts_piecesOf hlimit line
  rw [parts, addLine]
  generalize piecesOf limit limit line = pieces at hcuts ⊢
  have hlast : pieces.dropLast ++ [pieces.getLast?.getD []] = pieces := by
    rw [List.getLast?_eq_some_getLast hcuts.ne_nil, Option.getD_some,
      List.dropLast_append_getLast hcuts.ne_nil]
  by_cases hflush : f.current ≠ [] ∧ limit < byteCount f.current + byteCount line
  · -- the current part is complete
    refine ⟨[], pieces, ?_, hcuts.flatten_eq, fun hcurrent => ?_, fun hfits => ?_⟩
    · rw [if_pos hflush, flush]
      simp [hlast]
    · rw [List.append_nil]
      exact List.forall_mem_cons.mpr ⟨hcurrent, hcuts.size_le⟩
    · exact .inr ⟨rfl, hcuts.eq_singleton hfits⟩
  · rw [if_neg hflush]
    by_cases hcurrent : f.current = []
    · -- the line begins a part
      obtain ⟨x, more, rfl⟩ := List.exists_cons_of_ne_nil hcuts.ne_nil
      refine ⟨x, more, ?_, hcuts.flatten_eq, fun _ => ?_, fun hfits => ?_⟩
      · rw [hcurrent, List.nil_append, List.nil_append, List.append_assoc, hlast]
      · rw [hcurrent]
        exact hcuts.size_le
      · obtain ⟨rfl, rfl⟩ := List.cons_eq_cons.mp (hcuts.eq_singleton hfits)
        exact .inl ⟨rfl, rfl⟩
    · -- the line joins the current part
      have hjoins : byteCount f.current + byteCount line ≤ limit :=
        not_lt.mp fun hlong => hflush ⟨hcurrent, hlong⟩
      obtain rfl := hcuts.eq_singleton ((Nat.le_add_left _ _).trans hjoins)
      refine ⟨line, [], by simp, by simp, fun _ => ?_, fun _ => .inl ⟨rfl, rfl⟩⟩
      simpa using hjoins

/-- How some lines are packed into the parts of a filling. -/
structure Packs (limit : Nat) (lines : List (List Char)) (f : Filling) : Prop where
  /-- No character is lost, -/
  flatten_eq : f.parts.flatten = lines.flatten
  /-- no part is too long, -/
  size_le : ∀ part ∈ f.parts, byteCount part ≤ limit
  /-- and a line that fits is within one part. -/
  whole : ∀ earlier line later, lines = earlier ++ line :: later → byteCount line ≤ limit →
    Within f.parts earlier.flatten line

/-- **One more line is packed like those before.** -/
theorem Packs.addLine (hlimit : leastChunkSize ≤ limit) (h : f.Packs limit lines)
    (line : List Char) : (f.addLine limit line).Packs limit (lines ++ [line]) := by
  obtain ⟨x, more, hparts, hline, hsize, hwhole⟩ := exists_parts_addLine hlimit f line
  have hflatten := h.flatten_eq
  rw [parts, List.flatten_append, List.flatten_singleton] at hflatten
  refine ⟨?_, ?_, ?_⟩
  · rw [hparts, List.flatten_append, List.flatten_cons, List.append_assoc f.current, hline,
      ← List.append_assoc, hflatten, List.flatten_append, List.flatten_singleton]
  · have hcurrent := h.size_le f.current (by simp [parts])
    rw [hparts]
    refine List.forall_mem_append.mpr ⟨fun part hpart => ?_, hsize hcurrent⟩
    exact h.size_le part (List.mem_append_left _ hpart)
  · intro earlier line' later hlines hfits
    rw [hparts]
    rcases concat_eq_append_cons hlines with ⟨rfl, rfl, rfl⟩ | ⟨later, rfl, rfl⟩
    · -- the new line joins the current part, or is a part of its own
      rw [← hflatten]
      rcases hwhole hfits with ⟨rfl, rfl⟩ | ⟨rfl, rfl⟩
      · exact ⟨f.full, f.current, [], [], by simp, rfl⟩
      · exact ⟨f.full ++ [f.current], [], [], [], by simp, by simp⟩
    · exact (h.whole earlier line' later rfl hfits).grow

/-- **All lines are packed so.** -/
theorem packs_foldl (hlimit : leastChunkSize ≤ limit) (lines : List (List Char)) :
    (lines.foldl (addLine limit) {}).Packs limit lines := by
  induction lines using List.reverseRecOn with
  | nil => exact ⟨rfl, by simp [parts], by simp⟩
  | append_singleton lines line ih =>
    rw [List.foldl_append]
    exact ih.addLine hlimit line

end Filling

/-! ### Chunks -/

/-- How many bytes a chunk may have under a limit. -/
def chunkSize (limit : Nat) : Nat := max limit leastChunkSize

/-- Chunks with the newlines that are left out behind each of them. -/
def laidOut (placed : List (String × Nat)) : List Char :=
  placed.flatMap fun p => p.1.toList ++ newlines p.2

theorem laidOut_cons (p : String × Nat) (placed : List (String × Nat)) :
    laidOut (p :: placed) = p.1.toList ++ newlines p.2 ++ laidOut placed := rfl

/-- The characters `content` stand within one chunk of a text, behind `before`. The text begins with
`lead` newlines that are left out. -/
def InChunk (lead : Nat) (placed : List (String × Nat)) (before content : List Char) : Prop :=
  ∃ earlier p later left right, placed = earlier ++ p :: later ∧
    p.1.toList = left ++ content ++ right ∧ before = newlines lead ++ laidOut earlier ++ left

section

variable {lead n : Nat} {placed : List (String × Nat)} {before content part : List Char}
  {parts : List (List Char)}

/-- They do so if more newlines are put in front. -/
theorem InChunk.newlines_append (h : InChunk lead placed before content) (n : Nat) :
    InChunk (n + lead) placed (newlines n ++ before) content := by
  obtain ⟨earlier, p, later, left, right, hplaced, hp, rfl⟩ := h
  exact ⟨earlier, p, later, left, right, hplaced, hp, by simp [newlines_add]⟩

/-- They do so if a chunk is put in front. -/
theorem InChunk.cons (h : InChunk lead placed before content) (chunk : String) (n : Nat) :
    InChunk 0 ((chunk, n + lead) :: placed) (chunk.toList ++ newlines n ++ before) content := by
  obtain ⟨earlier, p, later, left, right, rfl, hp, rfl⟩ := h
  refine ⟨_ :: earlier, p, later, left, right, rfl, hp, ?_⟩
  simp [laidOut_cons, newlines_add]

/-- The chunks that are left of the parts of a text, with the newlines that are left out. -/
structure Places (parts : List (List Char)) (lead : Nat) (placed : List (String × Nat)) : Prop where
  chunks_eq : placed.map Prod.fst = ((parts.map trimEnd).filter (· ≠ [])).map String.ofList
  flatten_eq : parts.flatten = newlines lead ++ laidOut placed
  /-- What stands within a part and has no newline stands within a chunk. -/
  inChunk : ∀ before content, Within parts before content → '\n' ∉ content → content ≠ [] →
    InChunk lead placed before content

/-- A part of newlines only vanishes. -/
theorem Places.cons_of_eq_nil (h : Places parts lead placed) (hnone : trimEnd part = [])
    (hpart : trimEnd part ++ newlines n = part) : Places (part :: parts) (n + lead) placed := by
  rw [hnone, List.nil_append] at hpart
  refine ⟨?_, ?_, fun before content hwithin hcontent hne => ?_⟩
  · rw [List.map_cons, List.filter_cons_of_neg (by simpa using hnone), h.chunks_eq]
  · rw [List.flatten_cons, h.flatten_eq, newlines_add, hpart, List.append_assoc]
  · rcases within_cons_iff.mp hwithin with ⟨right, heq⟩ | ⟨before', hwithin', rfl⟩
    · obtain ⟨c, hc⟩ := List.exists_mem_of_ne_nil content hne
      have hmem : c ∈ newlines n := by
        rw [hpart, heq]
        simp [hc]
      exact absurd (List.eq_of_mem_replicate hmem ▸ hc) hcontent
    · rw [← hpart]
      exact (h.inChunk before' content hwithin' hcontent hne).newlines_append n

/-- Any other part leaves a chunk. -/
theorem Places.cons_of_ne_nil (h : Places parts lead placed) (hsome : trimEnd part ≠ [])
    (hpart : trimEnd part ++ newlines n = part) :
    Places (part :: parts) 0 ((String.ofList (trimEnd part), n + lead) :: placed) := by
  refine ⟨?_, ?_, fun before content hwithin hcontent hne => ?_⟩
  · rw [List.map_cons, List.map_cons, List.filter_cons_of_pos (by simpa using hsome), h.chunks_eq]
    rfl
  · rw [List.flatten_cons, h.flatten_eq, laidOut_cons, newlines_add, String.toList_ofList]
    conv_lhs => rw [← hpart]
    simp
  · rcases within_cons_iff.mp hwithin with ⟨right, rfl⟩ | ⟨before', hwithin', rfl⟩
    · -- what does not end with a newline is still there
      have hlast : ∀ c ∈ (before ++ content).getLast?, c ≠ '\n' := by
        rintro c hc rfl
        rw [List.getLast?_append_of_ne_nil _ hne] at hc
        exact hcontent (List.mem_of_getLast? hc)
      refine ⟨[], _, placed, before, trimEnd right, rfl, ?_, ?_⟩
      · rw [String.toList_ofList, trimEnd_append hlast]
      · simp [laidOut]
    · have hcons := (h.inChunk before' content hwithin' hcontent hne).cons
        (String.ofList (trimEnd part)) n
      rwa [String.toList_ofList, hpart] at hcons

/-- **Parts leave chunks**, with their newlines behind them. -/
theorem exists_places (parts : List (List Char)) : ∃ lead placed, Places parts lead placed := by
  induction parts with
  | nil =>
    refine ⟨0, [], rfl, rfl, fun before content h => ?_⟩
    obtain ⟨earlier, left, right, later, hparts, -⟩ := h
    simp at hparts
  | cons part parts ih =>
    obtain ⟨lead, placed, h⟩ := ih
    obtain ⟨n, hpart⟩ := exists_trimEnd_append part
    by_cases hnone : trimEnd part = []
    · exact ⟨_, _, h.cons_of_eq_nil hnone hpart⟩
    · exact ⟨_, _, h.cons_of_ne_nil hnone hpart⟩

/-- A chunk is what is left of a part. -/
theorem Places.exists_part (h : Places parts lead placed) {p : String × Nat} (hp : p ∈ placed) :
    ∃ part ∈ parts, trimEnd part ≠ [] ∧ p.1 = String.ofList (trimEnd part) := by
  have hmem : p.1 ∈ placed.map Prod.fst := List.mem_map_of_mem hp
  rw [h.chunks_eq] at hmem
  obtain ⟨t, ht, heq⟩ := List.mem_map.mp hmem
  obtain ⟨ht, hne⟩ := List.mem_filter.mp ht
  obtain ⟨part, hpart, rfl⟩ := List.mem_map.mp ht
  exact ⟨part, hpart, by simpa using hne, heq.symm⟩

end

/-- How a text is cut into chunks of at most `m` bytes, each with a number of newlines behind it,
and `lead` newlines before all of them. -/
structure Chunked (m : Nat) (s : String) (lead : Nat) (placed : List (String × Nat)) : Prop where
  /-- Only newlines are left out, and nothing is repeated or comes in another order. -/
  text_eq : s.toList = newlines lead ++ laidOut placed
  ne_empty : ∀ p ∈ placed, p.1 ≠ ""
  size_le : ∀ p ∈ placed, p.1.utf8ByteSize ≤ m
  getLast?_ne : ∀ p ∈ placed, p.1.toList.getLast? ≠ some '\n'
  /-- A chunk begins and ends between two characters. -/
  isValid : ∀ earlier p later, placed = earlier ++ p :: later → ∃ before after : String,
    s = before ++ p.1 ++ after ∧ before.toList = newlines lead ++ laidOut earlier ∧
      before.rawEndPos.IsValid s ∧ (before ++ p.1).rawEndPos.IsValid s
  /-- A line that fits is within one chunk, but for its newline. Of an empty line there is nothing
  else. -/
  whole : ∀ before content after, s.toList = before ++ content ++ after →
    (∀ c ∈ before.getLast?, c = '\n') → '\n' ∉ content → content ≠ [] →
    (∀ c ∈ after.head?, c = '\n') → byteCount (content ++ after.take 1) ≤ m →
    InChunk lead placed before content

theorem isValid_of_eq {s before chunk after : String} (h : s = before ++ chunk ++ after) :
    before.rawEndPos.IsValid s ∧ (before ++ chunk).rawEndPos.IsValid s :=
  ⟨String.Pos.Raw.isValid_iff_exists_append.mpr
      ⟨before, chunk ++ after, by rw [h, String.append_assoc], rfl⟩,
    String.Pos.Raw.isValid_iff_exists_append.mpr ⟨before ++ chunk, after, h, rfl⟩⟩

section

variable {limit m lead : Nat} {s : String} {f : Filling} {placed : List (String × Nat)}

/-- **Lines that are packed into parts leave chunks in their places.** -/
theorem chunked_of_places (hpacks : f.Packs m (linesOf s.toList))
    (hplaces : Places f.parts lead placed) : Chunked m s lead placed := by
  have htext := hplaces.flatten_eq
  rw [hpacks.flatten_eq, flatten_linesOf] at htext
  refine ⟨htext, fun p hp => ?_, fun p hp => ?_, fun p hp => ?_, ?_, ?_⟩
  · obtain ⟨part, -, hne, heq⟩ := hplaces.exists_part hp
    intro hempty
    rw [heq, ← String.toList_inj, String.toList_ofList] at hempty
    exact hne hempty
  · obtain ⟨part, hpart, -, heq⟩ := hplaces.exists_part hp
    obtain ⟨n, happend⟩ := exists_trimEnd_append part
    have hsize := hpacks.size_le part hpart
    rw [← happend, byteCount_append] at hsize
    rw [heq, utf8ByteSize_eq_byteCount, String.toList_ofList]
    exact (Nat.le_add_right _ _).trans hsize
  · obtain ⟨part, -, -, heq⟩ := hplaces.exists_part hp
    rw [heq, String.toList_ofList]
    exact getLast?_trimEnd part
  · rintro earlier p later rfl
    have hs : s = String.ofList (newlines lead ++ laidOut earlier) ++ p.1 ++
        String.ofList (newlines p.2 ++ laidOut later) := by
      rw [← String.toList_inj, htext]
      simp [laidOut]
    exact ⟨_, _, hs, by simp, isValid_of_eq hs⟩
  · intro before content after hs hbefore hcontent hne hafter hfits
    have hlines : linesOf s.toList =
        linesOf before ++ (content ++ after.take 1) :: linesOf (after.drop 1) :=
      hs ▸ linesOf_eq_append_cons hbefore hcontent hne hafter
    -- the newline of the line may be left out, but nothing else of it
    obtain ⟨earlier, left, right, later, hparts, heq⟩ := hpacks.whole _ _ _ hlines hfits
    rw [flatten_linesOf] at heq
    refine hplaces.inChunk before content ⟨earlier, left, after.take 1 ++ right, later, ?_, heq⟩
      hcontent hne
    rw [hparts]
    simp

/-- The current part vanishes if there is nothing in it. -/
theorem filter_chunks_eq (f : Filling) : (f.chunks.map trimEnd).filter (· ≠ []) =
    (f.parts.map trimEnd).filter (· ≠ []) := by
  rw [Filling.chunks, Filling.parts, Filling.flush]
  by_cases hcurrent : f.current = []
  · rw [if_pos hcurrent, hcurrent]
    simp [trimEnd, trimEndChars]
  · rw [if_neg hcurrent]

/-- The chunks of a text that is too long. -/
theorem chunks_of_lt (hlong : chunkSize limit < s.utf8ByteSize) :
    chunks limit s = ((((linesOf s.toList).foldl
      (Filling.addLine (chunkSize limit)) {}).parts.map trimEnd).filter (· ≠ [])).map
        String.ofList := by
  rw [utf8ByteSize_eq_byteCount] at hlong
  rw [chunks, chunksOf, ← chunkSize, if_neg (not_le.mpr hlong), ← filter_chunks_eq]
  rfl

end

/-- **Texts are cut into chunks without loss.** A line is cut in finitely many steps, a text that
fits is left as it is, and the chunks of a longer one are in their places. -/
theorem chunked_chunks (limit : Nat) (s : String) :
    (∀ line ∈ linesOf s.toList,
        Cuts (chunkSize limit) line (piecesOf (chunkSize limit) (chunkSize limit) line)) ∧
      (s.utf8ByteSize ≤ chunkSize limit → chunks limit s = [s]) ∧
      (chunkSize limit < s.utf8ByteSize → ∃ lead placed, placed.map Prod.fst = chunks limit s ∧
        Chunked (chunkSize limit) s lead placed) := by
  have hleast : leastChunkSize ≤ chunkSize limit := le_max_right limit leastChunkSize
  refine ⟨fun line _ => cuts_piecesOf hleast line, fun hfits => ?_, fun hlong => ?_⟩
  · rw [utf8ByteSize_eq_byteCount] at hfits
    rw [chunks, chunksOf, ← chunkSize, if_pos hfits, List.map_singleton, String.ofList_toList]
  · obtain ⟨lead, placed, hplaces⟩ := exists_places ((linesOf s.toList).foldl
      (Filling.addLine (chunkSize limit)) {}).parts
    exact ⟨lead, placed, hplaces.chunks_eq.trans (chunks_of_lt hlong).symm,
      chunked_of_places (Filling.packs_foldl hleast _) hplaces⟩

/-- A line with two characters of two bytes each, two empty lines, a line that is too long and two
short ones. The empty lines vanish and the long line is cut; a text of newlines only leaves
nothing, and under a limit that is too small for some characters there are four bytes all the
same. -/
theorem chunked_chunks_cut :
    let s := "éé\n\n\nabcdefgh\nij\nk"
    (∃ lead placed, placed.map Prod.fst = ["éé", "abcde", "fgh", "ij\nk"] ∧
        Chunked 5 s lead placed) ∧
      chunks 4 "\n\n\n\n\n" = [] ∧ chunks 0 "aéé" = ["aé", "é"] ∧ chunks 10 "ab\n" = ["ab\n"] := by
  intro s
  have hcut := (chunked_chunks 5 s).2.2 (by decide +kernel)
  have hchunks : chunks 5 s = ["éé", "abcde", "fgh", "ij\nk"] := by decide +kernel
  rw [hchunks] at hcut
  exact ⟨hcut, by decide +kernel, by decide +kernel, (chunked_chunks 10 _).2.1 (by decide +kernel)⟩

end Uptime.Text
