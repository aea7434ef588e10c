import Mathlib.Data.String.Basic
import Mathlib.Tactic.SplitIfs

/-!
# Names as bytes

Names are put in order by their code points. That is the order of the bytes by which they are
written: of two characters the one with the smaller code point has the smaller bytes, and no
encoding of a character begins another one.

## Main results

* `String.toByteArray_lt_iff`: the bytes of two texts compare as the texts do.
-/

namespace Uptime

private theorem ofNat_lt_ofNat {m n : Nat} (hm : m < 256) (hn : n < 256) :
    UInt8.ofNat m < UInt8.ofNat n ↔ m < n := by
  rw [UInt8.lt_iff_toNat_lt, UInt8.toNat_ofNat', UInt8.toNat_ofNat', Nat.mod_eq_of_lt hm,
    Nat.mod_eq_of_lt hn]

private theorem ofNat_eq_ofNat {m n : Nat} (hm : m < 256) (hn : n < 256) :
    UInt8.ofNat m = UInt8.ofNat n ↔ m = n := by
  rw [← UInt8.toNat_inj, UInt8.toNat_ofNat', UInt8.toNat_ofNat', Nat.mod_eq_of_lt hm,
    Nat.mod_eq_of_lt hn]

/-- A smaller character decides the comparison, whatever follows it. -/
theorem utf8EncodeChar_append_lt {c d : Char} (h : c < d) (cs ds : List UInt8) :
    String.utf8EncodeChar c ++ cs < String.utf8EncodeChar d ++ ds := by
  have hlt : c.val.toNat < d.val.toNat := h
  have hd : d.val.toNat < 0x110000 := by
    rcases d.valid with h | h
    · exact Nat.lt_trans h (by decide)
    · exact h.2
  unfold String.utf8EncodeChar
  generalize c.val.toNat = m at hlt
  generalize d.val.toNat = n at hlt hd
  -- the first byte tells the length, and further bytes are digits to the base 64
  have hm₁ : m / 64 / 64 = m / 4096 := Nat.div_div_eq_div_mul m 64 64
  have hm₂ : m / 4096 / 64 = m / 262144 := Nat.div_div_eq_div_mul m 4096 64
  have hn₁ : n / 64 / 64 = n / 4096 := Nat.div_div_eq_div_mul n 64 64
  have hn₂ : n / 4096 / 64 = n / 262144 := Nat.div_div_eq_div_mul n 4096 64
  have hm₃ : m / 262144 % 8 = m / 262144 := Nat.mod_eq_of_lt (by omega)
  have hn₃ : n / 262144 % 8 = n / 262144 := Nat.mod_eq_of_lt (by omega)
  dsimp only
  split_ifs <;> simp (disch := omega) only [List.cons_append, List.nil_append,
    List.cons_lt_cons_iff, ofNat_lt_ofNat, ofNat_eq_ofNat] <;> omega

theorem flatMap_utf8EncodeChar_lt {cs ds : List Char} (h : cs < ds) :
    cs.flatMap String.utf8EncodeChar < ds.flatMap String.utf8EncodeChar := by
  induction h with
  | @nil d ds =>
    obtain ⟨b, bs, hb⟩ := List.exists_cons_of_ne_nil (String.utf8EncodeChar_ne_nil (c := d))
    rw [List.flatMap_cons, hb]
    exact .nil
  | rel hlt => exact utf8EncodeChar_append_lt hlt _ _
  | cons _ ih => exact List.append_left_lt ih

/-- **The bytes of two texts compare as the texts do.** -/
theorem toByteArray_lt_iff {s t : String} :
    s.toByteArray.data.toList < t.toByteArray.data.toList ↔ s < t := by
  have hbytes : ∀ s : String,
      s.toByteArray.data.toList = s.toList.flatMap String.utf8EncodeChar := by
    intro s
    conv => lhs; rw [← String.ofList_toList (s := s)]
    rw [String.toByteArray_ofList, List.utf8Encode, List.data_toByteArray]
  have hlt : ∀ {s t : String}, s < t →
      s.toByteArray.data.toList < t.toByteArray.data.toList := by
    intro s t h
    rw [hbytes, hbytes]
    exact flatMap_utf8EncodeChar_lt h
  refine ⟨fun h => ?_, hlt⟩
  by_contra hnot
  rcases eq_or_lt_of_le (String.not_lt.mp hnot) with rfl | hlt'
  · exact List.lt_irrefl _ h
  · exact List.lt_asymm h (hlt hlt')

end Uptime
