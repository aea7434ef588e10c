import Uptime.Proofs.AcceptedSettings
import Uptime.Proofs.Registry.Takeover
import Uptime.Proofs.Text.Words

/-!
# What becomes of an entry

A name, an address and a port make a definition if nothing is wrong with them, and otherwise the
first thing that is wrong decides the error. The blanks around the two texts do not matter at all.
A definition that has been made can be entered again, and a registry that takes it over watches it.

## Main definitions

* `EntryError.possible`, `EntryError.Applies`: what may be wrong with an entry, and whether it is.
* `Entry.WellFormed`, `Entry.Judged`: when nothing is wrong, and what becomes of an entry.
* `Definition.Settled`: what can be relied on in a definition that has been made.
* `Text.Padded`: a text with blanks around it.

## Main results

* `Definition.ofEntry_eq_error_iff`: the first thing that is wrong decides.
* `Definition.judged_ofEntry`: what becomes of an entry.
-/

namespace Uptime

/-! ### What may be wrong -/

namespace EntryError

/-- What may be wrong with an entry, in the order in which it is looked for. An error about the
address or the port carries what it is about. -/
def possible (address : String) (port : Int) : List EntryError :=
  [emptyName, nameTooLong, emptyAddress, blankInAddress address, portOutOfRange port]

/-- Whether it is wrong, if the texts have no blanks around them. -/
def Applies (name address : String) (port : Int) : EntryError → Prop
  | emptyName => name = ""
  | nameTooLong => 100 < name.length
  | emptyAddress => address = ""
  | blankInAddress _ => address.toList.any Text.isBlank = true
  | portOutOfRange _ => port < 1 ∨ 65535 < port

instance (name address : String) (port : Int) : DecidablePred (Applies name address port)
  | emptyName => inferInstanceAs (Decidable (_ = _))
  | nameTooLong => inferInstanceAs (Decidable (_ < _))
  | emptyAddress => inferInstanceAs (Decidable (_ = _))
  | blankInAddress _ => inferInstanceAs (Decidable (_ = true))
  | portOutOfRange _ => inferInstanceAs (Decidable (_ ∨ _))

end EntryError

namespace Entry

/-- Nothing is wrong with an entry whose texts have no blanks around them. -/
structure WellFormed (name address : String) (port : Int) : Prop where
  one_le_length : 1 ≤ name.length
  length_le : name.length ≤ 100
  address_ne : address ≠ ""
  solid : ∀ c ∈ address.toList, Text.isBlank c = false
  one_le_port : 1 ≤ port
  port_le : port ≤ 65535

/-- What becomes of an entry whose texts are these when the blanks around them are left out. -/
structure Judged (name address : String) (port : Int) (outcome : Except EntryError Definition) :
    Prop where
  /-- It makes a definition exactly if nothing is wrong, -/
  exists_ok_iff : (∃ d, outcome = .ok d) ↔ WellFormed name address port
  /-- of just this name, address and port, which is switched on. -/
  eq_of_ok : ∀ d, outcome = .ok d →
    d.name = name ∧ d.address = address ∧ (d.port.toNat : Int) = port ∧ d.enabled = true
  /-- Otherwise the first thing that is wrong decides. -/
  error_iff : ∀ e, outcome = .error e ↔
    (EntryError.possible address port).find? (·.Applies name address port) = some e

end Entry

namespace Definition

variable {name address : String} {port : Int} {d : Definition} {e : EntryError}

/-- The first thing that is wrong, condition by condition. -/
theorem find?_possible : (EntryError.possible address port).find? (·.Applies name address port) =
    if name = "" then some .emptyName
    else if 100 < name.length then some .nameTooLong
    else if address = "" then some .emptyAddress
    else if address.toList.any Text.isBlank = true then some (.blankInAddress address)
    else if port < 1 ∨ 65535 < port then some (.portOutOfRange port)
    else none := by
  have hstep : ∀ (e : EntryError) (es : List EntryError),
      (e :: es).find? (·.Applies name address port) =
        if e.Applies name address port then some e
        else es.find? (·.Applies name address port) := by
    intro e es
    by_cases h : e.Applies name address port <;> simp [h]
  rw [EntryError.possible, hstep, hstep, hstep, hstep, hstep, List.find?_nil]
  rfl

/-- **The first thing that is wrong decides**, and if there is none the definition is made. -/
theorem ofEntry_eq (name address : String) (port : Int) : ofEntry name address port =
    match (EntryError.possible (Text.trim address) port).find?
      (·.Applies (Text.trim name) (Text.trim address) port) with
    | some e => .error e
    | none => .ok ⟨Text.trim name, Text.trim address, UInt16.ofNat port.toNat, true⟩ := by
  rw [find?_possible, ofEntry]
  by_cases hempty : Text.trim name = ""
  · rw [checkName, if_pos hempty, if_pos hempty]
    rfl
  by_cases hlong : 100 < (Text.trim name).length
  · rw [checkName, if_neg hempty, if_pos (show maxNameLength < _ from hlong), if_neg hempty,
      if_pos hlong]
    rfl
  have hname := checkName_eq_ok_iff.mpr ⟨⟨hempty, Nat.not_lt.mp hlong⟩, rfl⟩
  rw [hname, if_neg hempty, if_neg hlong]
  by_cases hnone : Text.trim address = ""
  · rw [checkAddress, if_pos hnone, if_pos hnone]
    rfl
  by_cases hblank : (Text.trim address).toList.any Text.isBlank = true
  · rw [checkAddress, if_neg hnone, if_pos hblank, if_neg hnone, if_pos hblank]
    rfl
  have haddress := checkAddress_eq_ok_iff.mpr ⟨⟨hnone, Bool.not_eq_true _ ▸ hblank⟩, rfl⟩
  rw [haddress, if_neg hnone, if_neg hblank]
  by_cases hrange : 1 ≤ port ∧ port ≤ 65535
  · rw [checkPort_eq_ok_iff.mpr ⟨hrange, rfl⟩, if_neg (by omega)]
    rfl
  · rw [checkPort, if_neg hrange, if_pos (by omega)]
    rfl

theorem find?_possible_eq_none_iff :
    (EntryError.possible address port).find? (·.Applies name address port) = none ↔
      Entry.WellFormed name address port := by
  have hlength : name ≠ "" ↔ 1 ≤ name.length := by
    rw [Nat.one_le_iff_ne_zero, Ne, Ne, String.length_eq_zero_iff]
  have hsolid : ¬ address.toList.any Text.isBlank = true ↔
      ∀ c ∈ address.toList, Text.isBlank c = false := by simp
  simp only [List.find?_eq_none, decide_eq_true_eq]
  simp only [EntryError.possible, List.forall_mem_cons, EntryError.Applies, hsolid]
  constructor
  · rintro ⟨hname, hlong, haddress, hblank, hrange, -⟩
    exact ⟨hlength.mp hname, by omega, haddress, hblank, by omega, by omega⟩
  · rintro ⟨hone, hle, haddress, hblank, hlow, hhigh⟩
    exact ⟨hlength.mpr hone, by omega, haddress, hblank, by omega, by simp⟩

/-- What becomes of an entry, in terms of its texts without the blanks around them. -/
theorem judged_trim (name address : String) (port : Int) :
    Entry.Judged (Text.trim name) (Text.trim address) port (ofEntry name address port) := by
  refine ⟨?_, fun d hd => ?_, fun e => ?_⟩
  · rw [← find?_possible_eq_none_iff, ofEntry_eq]
    cases (EntryError.possible (Text.trim address) port).find?
      (·.Applies (Text.trim name) (Text.trim address) port) <;> simp
  · obtain ⟨-, -, ⟨hlow, hhigh⟩, rfl⟩ := ofEntry_eq_ok_iff.mp hd
    refine ⟨rfl, rfl, ?_, rfl⟩
    dsimp only
    rw [UInt16.toNat_ofNat']
    omega
  · rw [ofEntry_eq]
    cases (EntryError.possible (Text.trim address) port).find?
      (·.Applies (Text.trim name) (Text.trim address) port) <;> simp

end Definition

/-! ### Blanks around texts -/

/-- A text with blanks around it. -/
def Text.Padded (s padded : String) : Prop :=
  ∃ before after, padded = before ++ s ++ after ∧
    before.toList.all isBlank = true ∧ after.toList.all isBlank = true

theorem Text.Padded.trim_eq {s padded : String} (h : Padded s padded) : trim padded = trim s := by
  obtain ⟨before, after, rfl, hbefore, hafter⟩ := h
  rw [trim, trim, String.toList_append, String.toList_append,
    trimChars_append_append (List.all_eq_true.mp hbefore) (List.all_eq_true.mp hafter)]

/-! ### Definitions that have been made -/

/-- What can be relied on in a definition that has been made. -/
structure Definition.Settled (d : Definition) : Prop where
  /-- If its own parts are entered it is made again. -/
  ofEntry_eq : ofEntry d.name d.address d.port.toNat = .ok d
  /-- It can be watched, -/
  usable : d.Usable
  /-- and it is by any registry that takes it over, unless another one comes before it that has its
  name. -/
  registered : ∀ (r : Registry) (before after : List Definition),
    (∀ e ∈ before, e.name ≠ d.name) → d.identity ∈ (r.replace (before ++ d :: after)).identities

namespace Definition

variable {name address : String} {port : Int} {d : Definition}

theorem Usable.registered (h : d.Usable) (r : Registry) {before : List Definition}
    (hbefore : ∀ e ∈ before, e.name ≠ d.name) (after : List Definition) :
    d.identity ∈ (r.replace (before ++ d :: after)).identities := by
  rw [Registry.identities_replace, Registry.mem_watched]
  have hfirst : d.IsFirst (before ++ d :: after) :=
    ⟨before, after, rfl, h, fun e he _ => hbefore e he⟩
  exact ⟨d, find?_eq_some_iff.mpr ⟨hfirst, rfl⟩, rfl⟩

theorem settled_of_ofEntry (h : ofEntry name address port = .ok d) : d.Settled := by
  have husable : d.Usable := (TargetSettings.stands_of_definition (t := ⟨name, address, port⟩)
    (mapError_eq_ok_iff.mpr h)).usable
  refine ⟨?_, husable, fun r _ after hbefore => husable.registered r hbefore after⟩
  obtain ⟨-, -, hport, -⟩ := (judged_trim name address port).eq_of_ok d h
  obtain ⟨hname, haddress, ⟨hlow, hhigh⟩, rfl⟩ := ofEntry_eq_ok_iff.mp h
  dsimp only at hport ⊢
  rw [ofEntry_eq_ok_iff, Text.trim_trim, Text.trim_trim, hport]
  exact ⟨hname, haddress, ⟨hlow, hhigh⟩, rfl⟩

/-- **What becomes of an entry.** Its texts count without the blanks around them. If nothing is
wrong they make a definition, which can be entered again and is watched, and otherwise the first
thing that is wrong decides the error. -/
theorem judged_ofEntry (name address : String) (port : Int) :
    (∃ name' address', Text.Trimmed name.toList name'.toList ∧
      Text.Trimmed address.toList address'.toList ∧
      Entry.Judged name' address' port (ofEntry name address port)) ∧
    (∀ d, ofEntry name address port = .ok d → d.Settled) ∧
    ∀ name' address', Text.Padded name name' → Text.Padded address address' →
      ofEntry name' address' port = ofEntry name address port := by
  have htrimmed : ∀ s : String, Text.Trimmed s.toList (Text.trim s).toList := fun s => by
    rw [Text.trim, String.toList_ofList]
    exact Text.trimmed_trimChars s.toList
  refine ⟨⟨Text.trim name, Text.trim address, htrimmed name, htrimmed address,
    judged_trim name address port⟩, fun d hd => settled_of_ofEntry hd, ?_⟩
  intro name' address' hname haddress
  rw [ofEntry_eq, ofEntry_eq, hname.trim_eq, haddress.trim_eq]

/-- Three entries: one is well-formed with blanks around its texts, one has everything wrong with
it, and the last one has nothing wrong but its port and a blank in its address, which is looked for
first. -/
theorem judged_ofEntry_web :
    let web : Definition := ⟨"web", "10.0.0.1", 443, true⟩
    web.Settled ∧ ofEntry "web" "10.0.0.1" 443 = .ok web ∧
      ofEntry " web\t" "\u00a010.0.0.1" 443 = .ok web ∧
      ofEntry " " " " 0 = .error .emptyName ∧
      ofEntry "web" " bad host\n" 65536 = .error (.blankInAddress "bad host") := by
  intro web
  have hweb : ofEntry "web" "10.0.0.1" 443 = .ok web := by decide +kernel
  obtain ⟨-, hsettled, hpadded⟩ := judged_ofEntry "web" "10.0.0.1" 443
  have hname : Text.Padded "web" " web\t" := ⟨" ", "\t", rfl, by decide, by decide⟩
  have haddress : Text.Padded "10.0.0.1" "\u00a010.0.0.1" :=
    ⟨"\u00a0", "", rfl, by decide, by decide⟩
  exact ⟨hsettled web hweb, hweb, (hpadded _ _ hname haddress).trans hweb, by decide +kernel,
    by decide +kernel⟩

end Definition

end Uptime
