import Mathlib.Data.List.Basic
import TidyRows.Number.Literal
import TidyRows.Proofs.Unicode.Casing
namespace TidyRows
open Unicode

variable {c d : Char} {cs : List Char}

theorem lowerAscii_cases (c : Char) :
    lowerAscii c = c ∨ 65 ≤ c.toNat ∧ c.toNat ≤ 90 ∧ (lowerAscii c).toNat = c.toNat + 32 := by
  unfold lowerAscii
  split
  · rename_i letter
    simp only [Bool.and_eq_true, decide_eq_true_eq] at letter
    have low : 65 ≤ c.toNat := letter.1
    have high : c.toNat ≤ 90 := letter.2
    exact .inr ⟨low, high, toNat_character (.inl (by omega))⟩
  · exact .inl rfl

theorem lowerAscii_eq_iff (mark : d.toNat < 65) : lowerAscii c = d ↔ c = d := by
  rcases lowerAscii_cases c with same | ⟨low, _, moved⟩
  · rw [same]
  · refine iff_of_false ?_ ?_ <;> rintro rfl <;> omega

theorem isBlank_lowerAscii (c : Char) : isBlank (lowerAscii c) = isBlank c := by
  rcases lowerAscii_cases c with same | ⟨low, high, moved⟩
  · rw [same]
  · rw [Bool.eq_iff_iff, isBlank_iff, isBlank_iff, moved]
    simp only [blankCodes, List.mem_cons, List.not_mem_nil, or_false]
    omega

theorem isDigit_lowerAscii (c : Char) : isDigit (lowerAscii c) = isDigit c := by
  rcases lowerAscii_cases c with same | ⟨low, high, moved⟩
  · rw [same]
  · have digit : ∀ d : Char, isDigit d = true ↔ 48 ≤ d.toNat ∧ d.toNat ≤ 57 := by
      intro d
      simp only [isDigit, Bool.and_eq_true, decide_eq_true_eq]
      exact Iff.rfl
    rw [Bool.eq_iff_iff, digit, digit, moved]
    omega

theorem lowerOf_ascii (low : c.toNat < 128) : lowerOf c = [lowerAscii c] := by
  by_cases letter : 65 ≤ c.toNat ∧ c.toNat ≤ 90
  · have letters : ∀ n < 26, lowerOf (Char.ofNat (n + 65)) = [lowerAscii (Char.ofNat (n + 65))] := by decide
    have known := letters (c.toNat - 65) (by omega)
    rwa [Nat.sub_add_cancel letter.1, Char.ofNat_toNat] at known
  · have apart : ∀ r ∈ lowerRuns, r.last = 90 ∧ r.first = 65 ∨ 128 ≤ r.first := by decide +kernel
    have same := (lowerAscii_cases c).resolve_right fun moved => letter ⟨moved.1, moved.2.1⟩
    rw [same, lowerOf, if_neg (by omega)]
    rcases mapBy_cases lowerRuns c with ⟨still, _⟩ | ⟨r, member, covers, _⟩
    · rw [still]
    · obtain ⟨first, last, _⟩ := CaseRun.covers_iff.mp covers
      have := apart r member
      omega

theorem upperOf_ascii (low : c.toNat < 128) : upperOf c = [upperAscii c] := by
  by_cases letter : 97 ≤ c.toNat ∧ c.toNat ≤ 122
  · have letters : ∀ n < 26, upperOf (Char.ofNat (n + 97)) = [upperAscii (Char.ofNat (n + 97))] := by decide
    have known := letters (c.toNat - 97) (by omega)
    rwa [Nat.sub_add_cancel letter.1, Char.ofNat_toNat] at known
  · have words : ∀ w ∈ upperWords, 128 ≤ w.1 := by decide
    have apart : ∀ r ∈ upperRuns, r.last = 122 ∧ r.first = 97 ∨ 128 ≤ r.first := by decide +kernel
    have same : upperAscii c = c := by
      refine if_neg fun small => letter ?_
      simp only [Bool.and_eq_true, decide_eq_true_eq] at small
      exact small
    rw [same]
    refine upperOf_uncovered (fun w member listed => ?_) (fun r member => Bool.eq_false_iff.mpr fun covers => ?_)
    · have := words w member
      omega
    · obtain ⟨first, last, _⟩ := CaseRun.covers_iff.mp covers
      have := apart r member
      omega

-- Neither case leaves the plain characters, and both have the same small letter.
theorem ascii_cases (low : c.toNat < 128) : (lowerAscii c).toNat < 128 ∧ (upperAscii c).toNat < 128 ∧
    lowerAscii (lowerAscii c) = lowerAscii c ∧ lowerAscii (upperAscii c) = lowerAscii c := by
  have cases : ∀ n < 128, (lowerAscii (Char.ofNat n)).toNat < 128 ∧ (upperAscii (Char.ofNat n)).toNat < 128 ∧
      lowerAscii (lowerAscii (Char.ofNat n)) = lowerAscii (Char.ofNat n) ∧
      lowerAscii (upperAscii (Char.ofNat n)) = lowerAscii (Char.ofNat n) := by decide
  have known := cases c.toNat low
  rwa [Char.ofNat_toNat] at known

def Ascii (cs : List Char) : Prop := ∀ c ∈ cs, c.toNat < 128

theorem lower_ascii (low : Ascii cs) : lower cs = cs.map lowerAscii := by
  rw [lower_flatMap fun c member => by have := low c member; omega, List.flatMap_congr fun c member => lowerOf_ascii (low c member)]
  exact List.map_eq_flatMap.symm

theorem upper_ascii (low : Ascii cs) : upper cs = cs.map upperAscii := by
  rw [upper, List.flatMap_congr fun c member => upperOf_ascii (low c member)]
  exact List.map_eq_flatMap.symm

end TidyRows
