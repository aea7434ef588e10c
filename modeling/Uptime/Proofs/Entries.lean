import Uptime.Proofs.AcceptedSettings
import Uptime.Proofs.Text.Escape
import Uptime.Proofs.Text.Words

/-!
# Accepted names and addresses in messages

A name that is accepted is short, but may have any blank inside. An address may be long, but has no
blank at all.

## Main results

* `byteCount_escapeChars_of_checkName`: the size of an escaped name.
* `newline_notMem_of_checkAddress`: addresses have no newline.
* `checkAddress_replicate`: addresses may have any length.
-/

namespace Uptime

open Text

/-- An accepted name is short, even if it is escaped. -/
theorem byteCount_escapeChars_of_checkName {name : String} (h : checkName name = .ok name) :
    byteCount (escapeChars name.toList) ≤ 500 := by
  obtain ⟨⟨-, hlength⟩, htrim⟩ := checkName_eq_ok_iff.mp h
  have hsize := byteCount_escapeChars_le name.toList
  rw [← htrim, maxNameLength] at hlength
  rw [String.length_toList] at hsize
  omega

theorem newline_notMem_of_any_isBlank {cs : List Char} (h : cs.any isBlank = false) : '\n' ∉ cs :=
  fun hmem => absurd (List.any_eq_false.mp h '\n' hmem) (by decide)

/-- An accepted address has no newline. -/
theorem newline_notMem_of_checkAddress {address : String} (h : checkAddress address = .ok address) :
    '\n' ∉ address.toList := by
  obtain ⟨⟨-, hblank⟩, htrim⟩ := checkAddress_eq_ok_iff.mp h
  rw [← htrim] at hblank
  exact newline_notMem_of_any_isBlank hblank

/-- An address may have any length. -/
theorem checkAddress_replicate {n : Nat} (h : 0 < n) :
    checkAddress (String.ofList (List.replicate n 'x')) = .ok (String.ofList (List.replicate n 'x')) := by
  have hall : ∀ c ∈ List.replicate n 'x', isBlank c = false := fun c hc =>
    List.eq_of_mem_replicate hc ▸ rfl
  have htrim : trim (String.ofList (List.replicate n 'x')) = String.ofList (List.replicate n 'x') := by
    rw [trim_eq_self_iff, String.toList_ofList]
    exact ⟨fun c hc => hall c (List.mem_of_mem_head? hc), fun c hc => hall c (List.mem_of_getLast? hc)⟩
  refine checkAddress_eq_ok_iff.mpr ⟨⟨?_, ?_⟩, htrim.symm⟩
  · rw [htrim]
    intro hempty
    rw [← String.toList_inj, String.toList_ofList] at hempty
    exact Nat.ne_of_gt h (by simpa using hempty)
  · rw [htrim, String.toList_ofList]
    simpa using hall

end Uptime
