import Uptime.Chat.Command
import Uptime.Proofs.Text.Words

/-!
# The grammar of commands

A message has a command if it begins with a slash, apart from blanks, and its first word has a name
behind the slashes. The name ends before the first `@`, unless it begins with it. The second word is
the argument, as it stands. So the same command can be written with more slashes, in capitals, with
the name of a bot behind it, with other blanks and with further words.

## Main definitions

* `Called`: what a command is called in the first word of a message.
* `Command.Spelled`: a message with a command, before its name is lowered.
* `DressedCommand`: a command with an argument and all that may be around it.

## Main results

* `called_iff`: a word has one name.
* `lower_of_isAscii`: how the name of a command is lowered.
* `Command.ofText?_eq_some_iff`: which messages have a command, and which it is.
* `Command.spelled_and_dressed`: what is around a command does not matter.
-/

namespace Uptime

open Text

/-! ### Names of commands -/

/-- The slashes in front of a name. -/
def slashes (n : Nat) : List Char := List.replicate n '/'

/-- What a command is called in the first word of a message. Nothing is left out of a name that begins
with an `@`. -/
inductive Called : List Char → List Char → Prop
  /-- Slashes and the name. -/
  | plain (n : Nat) {name : List Char} (hhead : name.head? ≠ some '/')
      (hat : '@' ∉ name ∨ name.head? = some '@') : Called (slashes n ++ name) name
  /-- Slashes, the name, and the name of a bot. -/
  | withBot (n : Nat) {name : List Char} (hne : name ≠ []) (hhead : name.head? ≠ some '/')
      (hat : '@' ∉ name) (bot : List Char) : Called (slashes n ++ name ++ '@' :: bot) name

section

variable {word name : List Char}

theorem withoutBotName_of_head?_eq (h : word.head? = some '@') : withoutBotName word = word := by
  obtain ⟨rest, rfl⟩ := List.head?_eq_some_iff.mp h
  rfl

theorem withoutBotName_of_head?_ne (h : word.head? ≠ some '@') :
    withoutBotName word = word.takeWhile (· ≠ '@') := by
  unfold withoutBotName
  split
  · exact absurd rfl h
  · rfl

/-- All slashes in front are left out, and no other. -/
theorem dropWhile_slashes_append (n : Nat) (h : name.head? ≠ some '/') :
    (slashes n ++ name).dropWhile (· = '/') = name := by
  rw [slashes, List.dropWhile_append_of_pos (by simp)]
  cases name with
  | nil => rfl
  | cons c name =>
    refine List.dropWhile_cons_of_neg ?_
    simpa using h

theorem exists_slashes_append (word : List Char) :
    ∃ n, word = slashes n ++ word.dropWhile (· = '/') := by
  refine ⟨(word.takeWhile (· = '/')).length, ?_⟩
  have hall : ∀ c ∈ word.takeWhile (· = '/'), c = '/' := fun c hc => by
    simpa using List.mem_takeWhile_imp hc
  rw [slashes, ← List.eq_replicate_of_mem hall, List.takeWhile_append_dropWhile]

theorem commandWord_of_called (h : Called word name) : commandWord word = name := by
  cases h with
  | plain n hhead hat =>
    rw [commandWord, dropWhile_slashes_append n hhead]
    by_cases hfirst : name.head? = some '@'
    · exact withoutBotName_of_head?_eq hfirst
    · rw [withoutBotName_of_head?_ne hfirst, List.takeWhile_eq_self_iff]
      intro c hc
      have hne : c ≠ '@' := fun heq => hat.resolve_right hfirst (heq ▸ hc)
      simpa using hne
  | withBot n hne hhead hat bot =>
    have hfirst : name.head? ≠ some '@' := fun h => hat (List.mem_of_mem_head? h)
    have hall : ∀ c ∈ name, decide (c ≠ '@') = true := by
      intro c hc
      have hne : c ≠ '@' := fun heq => hat (heq ▸ hc)
      simpa using hne
    have happend : (name ++ '@' :: bot).head? = name.head? := List.head?_append_of_ne_nil name hne
    rw [← happend] at hhead hfirst
    rw [List.append_assoc, commandWord, dropWhile_slashes_append n hhead,
      withoutBotName_of_head?_ne hfirst, List.takeWhile_append_of_pos hall,
      List.takeWhile_cons_of_neg (by simp), List.append_nil]

/-- What is behind the slashes is a name, or begins with one. -/
theorem called_slashes_append (n : Nat) {rest : List Char} (hhead : rest.head? ≠ some '/') :
    Called (slashes n ++ rest) (withoutBotName rest) := by
  by_cases hfirst : rest.head? = some '@'
  · rw [withoutBotName_of_head?_eq hfirst]
    exact .plain n hhead (.inr hfirst)
  · rw [withoutBotName_of_head?_ne hfirst]
    have hat : '@' ∉ rest.takeWhile (· ≠ '@') := fun h => by
      simpa using List.mem_takeWhile_imp h
    have hstop := List.head?_dropWhile_not (· ≠ '@') rest
    have hrest := List.takeWhile_append_dropWhile (p := (· ≠ '@')) (l := rest)
    generalize rest.takeWhile (· ≠ '@') = name at hat hrest ⊢
    generalize rest.dropWhile (· ≠ '@') = more at hstop hrest
    subst hrest
    -- either the word ends with its name, or an `@` comes next
    cases more with
    | nil =>
      rw [List.append_nil] at hhead ⊢
      exact .plain n hhead (.inl hat)
    | cons c bot =>
      obtain rfl : c = '@' := by simpa using hstop
      have hne : name ≠ [] := by
        rintro rfl
        exact hfirst rfl
      rw [List.head?_append_of_ne_nil _ hne] at hhead
      rw [← List.append_assoc]
      exact .withBot n hne hhead hat bot

/-- **A word has one name**, which is the one that is read off it. -/
theorem called_iff : Called word name ↔ commandWord word = name := by
  constructor
  · exact commandWord_of_called
  · rintro rfl
    obtain ⟨n, hword⟩ := exists_slashes_append word
    have hhead : (word.dropWhile (· = '/')).head? ≠ some '/' := by
      intro h
      have hstop := List.head?_dropWhile_not (· = '/') word
      rw [h] at hstop
      simp at hstop
    rw [commandWord]
    conv => lhs; rw [hword]
    exact called_slashes_append n hhead

end

/-! ### Lowering names -/

/-- The lower case of letters of ASCII is their own business. -/
theorem lowerFrom_of_isAscii {cs : List Char} (h : ∀ c ∈ cs, c.toNat < 0x80) (before : List Char) :
    lowerFrom before cs = cs.map Char.toLower := by
  induction cs generalizing before with
  | nil => rfl
  | cons c cs ih =>
    obtain ⟨hc, hcs⟩ := List.forall_mem_cons.mp h
    have hsigma : c ≠ 'Σ' := by
      rintro rfl
      exact absurd hc (by decide)
    have hdotted : c ≠ 'İ' := by
      rintro rfl
      exact absurd hc (by decide)
    rw [lowerFrom, if_neg hsigma, if_neg hdotted, ih hcs, lowerSimple, if_pos hc]
    rfl

/-- **A name in ASCII is lowered letter by letter.** -/
theorem lower_of_isAscii {cs : List Char} (h : ∀ c ∈ cs, c.toNat < 0x80) :
    lower (String.ofList cs) = String.ofList (cs.map Char.toLower) := by
  rw [lower, String.toList_ofList, lowerFrom_of_isAscii h]

theorem val_mem_iff (lo hi : UInt32) (c : Char) :
    (c.val ≥ lo ∧ c.val ≤ hi) ↔ lo.toNat ≤ c.toNat ∧ c.toNat ≤ hi.toNat := by
  rw [ge_iff_le, UInt32.le_iff_toNat_le, UInt32.le_iff_toNat_le]
  rfl

theorem toNat_toLower (c : Char) :
    c.toLower.toNat = if 65 ≤ c.toNat ∧ c.toNat ≤ 90 then c.toNat + 32 else c.toNat := by
  have hrange : (c.val ≥ 65 ∧ c.val ≤ 90) ↔ 65 ≤ c.toNat ∧ c.toNat ≤ 90 := val_mem_iff 65 90 c
  unfold Char.toLower
  split
  · next h =>
    have hnat := hrange.mp h
    rw [if_pos hnat]
    change (c.val + 32).toNat = _
    rw [UInt32.toNat_add, Char.toNat_val]
    exact Nat.mod_eq_of_lt (by simp; omega)
  · next h => rw [if_neg (hrange.not.mp h)]

/-- The letters, digits and underscores of ASCII. -/
def isNameChar (c : Char) : Bool := c.isAlphanum || c == '_'

theorem isNameChar_iff {c : Char} : isNameChar c = true ↔
    (65 ≤ c.toNat ∧ c.toNat ≤ 90) ∨ (97 ≤ c.toNat ∧ c.toNat ≤ 122) ∨
      (48 ≤ c.toNat ∧ c.toNat ≤ 57) ∨ c.toNat = 95 := by
  have hupper : c.isUpper = true ↔ 65 ≤ c.toNat ∧ c.toNat ≤ 90 :=
    decide_eq_true_iff.trans (val_mem_iff 65 90 c)
  have hboth : ∀ lo hi : UInt32, (decide (c.val ≥ lo) && decide (c.val ≤ hi)) = true ↔
      lo.toNat ≤ c.toNat ∧ c.toNat ≤ hi.toNat := by
    intro lo hi
    rw [Bool.and_eq_true, decide_eq_true_eq, decide_eq_true_eq, val_mem_iff]
  have hlower : c.isLower = true ↔ 97 ≤ c.toNat ∧ c.toNat ≤ 122 := hboth 97 122
  have hdigit : c.isDigit = true ↔ 48 ≤ c.toNat ∧ c.toNat ≤ 57 := hboth 48 57
  have hunderscore : c = '_' ↔ c.toNat = 95 := Char.toNat_inj.symm
  show (c.isUpper || c.isLower || c.isDigit || c == '_') = true ↔ _
  rw [Bool.or_eq_true, Bool.or_eq_true, Bool.or_eq_true, beq_iff_eq, hupper, hlower, hdigit,
    hunderscore, or_assoc, or_assoc]

theorem isNameChar_toLower {c : Char} : isNameChar c.toLower = true ↔ isNameChar c = true := by
  rw [isNameChar_iff, isNameChar_iff, toNat_toLower]
  split <;> omega

/-- The characters of a name in another case are such characters. -/
theorem isNameChar_of_map_toLower_eq {cs ds : List Char} (hds : ∀ d ∈ ds, isNameChar d = true)
    (h : cs.map Char.toLower = ds.map Char.toLower) : ∀ c ∈ cs, isNameChar c = true := by
  intro c hc
  have hmem : c.toLower ∈ ds.map Char.toLower := h ▸ List.mem_map_of_mem hc
  obtain ⟨d, hd, heq⟩ := List.mem_map.mp hmem
  rw [← isNameChar_toLower, ← heq, isNameChar_toLower]
  exact hds d hd

/-- No other character is in a name. -/
theorem notMem_of_isNameChar {cs : List Char} (hcs : ∀ c ∈ cs, isNameChar c = true) {c : Char}
    (hc : isNameChar c = false) : c ∉ cs := by
  intro hmem
  rw [hcs c hmem] at hc
  cases hc

theorem head?_ne_slash_of_isNameChar {cs : List Char} (hcs : ∀ c ∈ cs, isNameChar c = true) :
    cs.head? ≠ some '/' := by
  intro h
  exact notMem_of_isNameChar hcs (by decide) (List.mem_of_mem_head? h)

theorem isBlank_of_isNameChar {c : Char} (h : isNameChar c = true) : isBlank c = false := by
  rw [isNameChar_iff] at h
  simp only [isBlank, Bool.or_eq_false_iff, Bool.and_eq_false_iff, decide_eq_false_iff_not,
    beq_eq_false_iff_ne]
  omega

/-! ### Messages with a command -/

namespace Command

/-- A message that spells a command: apart from the blanks around it, it begins with a slash, and its
first word has a name. -/
inductive Spelled (text : String) : List Char → Option String → Prop
  /-- The name is that of the first word, and the argument is the second one. -/
  | intro {raw first name : List Char} {rest : List (List Char)}
      (htrim : Trimmed text.toList raw) (hslash : raw.head? = some '/')
      (hwords : Spaced raw (first :: rest)) (hname : Called first name) (hne : name ≠ []) :
      Spelled text name (rest.head?.map String.ofList)

section

variable {text : String} {c : Command} {first name : List Char} {rest : List (List Char)}

/-- It is enough to look at the words. -/
theorem Spelled.of_spaced (hwords : Spaced text.toList (first :: rest))
    (hslash : first.head? = some '/') (hname : Called first name) (hne : name ≠ []) :
    Spelled text name (rest.head?.map String.ofList) := by
  have htrim := trimmed_trimChars text.toList
  refine .intro htrim ?_ (htrim.spaced_iff.mpr hwords) hname hne
  rw [htrim.head?_eq hwords, hslash]

/-- **The messages with a command**, and the command each of them has. -/
theorem ofText?_eq_some_iff : ofText? text = some c ↔
    ∃ name, Spelled text name c.argument ∧ c.word = lower (String.ofList name) := by
  have htrim := trimmed_trimChars text.toList
  constructor
  · intro h
    dsimp only [ofText?] at h
    split at h
    · next hslash =>
      split at h
      · exact absurd h (by simp)
      · next first rest hwords =>
        split at h
        · exact absurd h (by simp)
        · next hne =>
          obtain rfl := Option.some.inj h
          exact ⟨_, .intro htrim hslash (spaced_iff.mpr hwords) (called_iff.mpr rfl) hne, rfl⟩
    · exact absurd h (by simp)
  · rintro ⟨name, hspelled, hword⟩
    obtain ⟨word, argument⟩ := c
    obtain rfl : word = lower (String.ofList name) := hword
    cases hspelled with
    | intro htrim hslash hwords hname hne =>
      obtain rfl := trimmed_iff.mp htrim
      obtain rfl := called_iff.mp hname
      rw [ofText?, if_pos hslash, spaced_iff.mp hwords]
      dsimp only
      split
      · next heq => exact absurd heq hne
      · rfl

end

end Command

/-- A command with an argument, and all that may be around it in a message: blanks, more slashes,
another case, the name of a bot, and further words. -/
structure DressedCommand where
  name : List Char
  argument : List Char
  /-- The name in another case. -/
  cased : List Char
  /-- The slashes after the first one. -/
  moreSlashes : Nat
  bot : List Char
  before : List Char
  between : List Char
  after : List Char
  name_ne : name ≠ []
  isNameChar_name : ∀ c ∈ name, isNameChar c = true
  argument_ne : argument ≠ []
  argument_solid : ∀ c ∈ argument, isBlank c = false
  cased_eq : cased.map Char.toLower = name.map Char.toLower
  bot_solid : ∀ c ∈ bot, isBlank c = false
  before_blank : ∀ c ∈ before, isBlank c = true
  between_ne : between ≠ []
  between_blank : ∀ c ∈ between, isBlank c = true
  after_blank : ∀ c ∈ after.head?, isBlank c = true

namespace DressedCommand

variable (d : DressedCommand)

/-- The first word of the message. -/
def first : List Char := slashes (d.moreSlashes + 1) ++ d.cased ++ '@' :: d.bot

/-- The message with all that is around the command. -/
def text : String :=
  String.ofList (d.before ++ d.first ++ (d.between ++ d.argument ++ d.after))

/-- The message with nothing around the command. -/
def plain : String := String.ofList ('/' :: d.name ++ ' ' :: d.argument)

/-- The command. -/
def command : Command :=
  ⟨String.ofList (d.name.map Char.toLower), some (String.ofList d.argument)⟩

/-- The name in another case is not empty either. -/
theorem ne_nil_of_map_toLower_eq {name : List Char}
    (h : name.map Char.toLower = d.name.map Char.toLower) : name ≠ [] := by
  rintro rfl
  exact d.name_ne (List.map_eq_nil_iff.mp h.symm)

/-- A first word that has the name in some case, then the argument. -/
theorem ofText?_of_called {before first name between after : List Char}
    (hbefore : ∀ c ∈ before, isBlank c = true) (hslash : first.head? = some '/')
    (hsolid : ∀ c ∈ first, isBlank c = false) (hcalled : Called first name)
    (hname : name.map Char.toLower = d.name.map Char.toLower)
    (hbetween : between ≠ []) (hblank : ∀ c ∈ between, isBlank c = true)
    (hafter : ∀ c ∈ after.head?, isBlank c = true) :
    Command.ofText? (String.ofList (before ++ first ++ (between ++ d.argument ++ after))) =
      some d.command := by
  have hwords : Spaced
      (String.ofList (before ++ first ++ (between ++ d.argument ++ after))).toList
      (first :: d.argument :: wordsOf after) := by
    rw [String.toList_ofList]
    refine .word hbefore ?_ hsolid ?_
      (.word hblank d.argument_ne d.argument_solid hafter (spaced_iff.mpr rfl))
    · rintro rfl
      exact absurd hslash (by simp)
    · intro c hc
      rw [List.append_assoc, List.head?_append_of_ne_nil _ hbetween] at hc
      exact hblank c (List.mem_of_mem_head? hc)
  have hascii : ∀ c ∈ name, c.toNat < 0x80 := by
    intro c hc
    have hrange := isNameChar_iff.mp (isNameChar_of_map_toLower_eq d.isNameChar_name hname c hc)
    omega
  rw [Command.ofText?_eq_some_iff]
  refine ⟨name, Command.Spelled.of_spaced hwords hslash hcalled (d.ne_nil_of_map_toLower_eq hname),
    ?_⟩
  rw [lower_of_isAscii hascii, hname]
  rfl

/-- The command as it stands, -/
theorem ofText?_plain : Command.ofText? d.plain = some d.command := by
  have hat := notMem_of_isNameChar d.isNameChar_name (c := '@') (by decide)
  have hcalled : Called ('/' :: d.name) d.name :=
    .plain 1 (head?_ne_slash_of_isNameChar d.isNameChar_name) (.inl hat)
  have hsolid : ∀ c ∈ '/' :: d.name, isBlank c = false := by
    rw [List.forall_mem_cons]
    exact ⟨by decide, fun c hc => isBlank_of_isNameChar (d.isNameChar_name c hc)⟩
  have hbetween : ∀ c ∈ [' '], isBlank c = true := List.forall_mem_singleton.mpr (by decide)
  have hbefore : ∀ c ∈ ([] : List Char), isBlank c = true := by simp
  have hafter : ∀ c ∈ ([] : List Char).head?, isBlank c = true := by simp
  have hplain := d.ofText?_of_called hbefore rfl hsolid hcalled rfl (by decide) hbetween hafter
  rw [List.append_nil] at hplain
  exact hplain

/-- and with all that is around it. -/
theorem ofText?_text : Command.ofText? d.text = some d.command := by
  have hchars := isNameChar_of_map_toLower_eq d.isNameChar_name d.cased_eq
  have hat := notMem_of_isNameChar hchars (c := '@') (by decide)
  have hcalled : Called d.first d.cased :=
    .withBot _ (d.ne_nil_of_map_toLower_eq d.cased_eq) (head?_ne_slash_of_isNameChar hchars) hat _
  refine d.ofText?_of_called d.before_blank rfl ?_ hcalled d.cased_eq d.between_ne
    d.between_blank d.after_blank
  rw [first, List.forall_mem_append, List.forall_mem_append, List.forall_mem_cons]
  refine ⟨⟨fun c hc => ?_, fun c hc => isBlank_of_isNameChar (hchars c hc)⟩, by decide,
    d.bot_solid⟩
  rw [List.eq_of_mem_replicate hc]
  decide

end DressedCommand

namespace Command

/-- **The grammar of commands.** A message has a command exactly if it spells one, and it has the one
that it spells. What can be around a command does not matter. -/
theorem spelled_and_dressed :
    (∀ text, (ofText? text).isSome = true ↔ ∃ name argument, Spelled text name argument) ∧
    (∀ text c, ofText? text = some c ↔
      ∃ name, Spelled text name c.argument ∧ c.word = lower (String.ofList name)) ∧
    ∀ d : DressedCommand, ofText? d.plain = some d.command ∧ ofText? d.text = some d.command := by
  refine ⟨fun text => ?_, fun text c => ofText?_eq_some_iff,
    fun d => ⟨d.ofText?_plain, d.ofText?_text⟩⟩
  rw [Option.isSome_iff_exists]
  constructor
  · rintro ⟨c, hc⟩
    obtain ⟨name, hspelled, -⟩ := ofText?_eq_some_iff.mp hc
    exact ⟨name, c.argument, hspelled⟩
  · rintro ⟨name, argument, hspelled⟩
    exact ⟨⟨lower (String.ofList name), argument⟩,
      ofText?_eq_some_iff.mpr ⟨name, hspelled, rfl⟩⟩

/-- The log of a target, asked for loudly. -/
def loudLogs : DressedCommand where
  name := "logs".toList
  argument := "web".toList
  cased := "LOGs".toList
  moreSlashes := 1
  bot := "port_bot".toList
  before := "\n ".toList
  between := "\u3000\t".toList
  after := " extra ".toList
  name_ne := by decide
  isNameChar_name := List.all_eq_true.mp (by decide)
  argument_ne := by decide
  argument_solid c hc := isBlank_of_isNameChar (List.all_eq_true.mp (by decide) c hc)
  cased_eq := by decide
  bot_solid c hc := isBlank_of_isNameChar (List.all_eq_true.mp (by decide) c hc)
  before_blank := List.all_eq_true.mp (by decide)
  between_ne := by decide
  between_blank := List.all_eq_true.mp (by decide)
  after_blank c hc := Option.some.inj hc ▸ rfl

theorem spelled_and_dressed_loud :
    ofText? "/logs web" = some ⟨"logs", some "web"⟩ ∧
      ofText? "\n //LOGs@port_bot\u3000\tweb extra " = some ⟨"logs", some "web"⟩ :=
  spelled_and_dressed.2.2 loudLogs

end Command

end Uptime
