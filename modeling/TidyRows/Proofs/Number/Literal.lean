import TidyRows.Proofs.Value.Tokens
namespace TidyRows
open Read

theorem digit_ne {c d : Char} (digit : isDigit c = true) (other : isDigit d = false) : c ≠ d := by
  rintro rfl
  exact absurd (digit.symm.trans other) (by decide)

theorem digits_without {cs : List Char} (all : ∀ c ∈ cs, isDigit c = true) {d : Char} (other : isDigit d = false) :
    d ∉ cs := fun member => digit_ne (all d member) other rfl

theorem takeSign_digit {c : Char} (digit : isDigit c = true) (rest : List Char) :
    takeSign (c :: rest) = (false, c :: rest) := by
  unfold takeSign
  split
  · rename_i same
    exact absurd (List.cons.inj same).1 (digit_ne digit rfl)
  · rename_i same
    exact absurd (List.cons.inj same).1 (digit_ne digit rfl)
  · rfl

def markedText (mark : Char) : Option (List Char) → List Char
  | none => []
  | some ds => mark :: ds

section
variable {whole rest : List Char} {fraction : Option (List Char)}

theorem takeSign_signText (negative : Bool) (some : whole ≠ []) (digits : ∀ c ∈ whole, isDigit c = true) :
    takeSign (signText negative ++ (whole ++ rest)) = (negative, whole ++ rest) := by
  cases negative with
  | true => rfl
  | false =>
    obtain ⟨c, more, rfl⟩ := List.exists_cons_of_ne_nil some
    exact takeSign_digit (digits c (List.mem_cons_self ..)) (more ++ rest)

theorem ofText?_decimal (negative : Bool) (some : whole ≠ []) (digits : ∀ c ∈ whole, isDigit c = true)
    (others : ∀ c ∈ fraction.getD [], isDigit c = true) (ends : NoDigit rest) (point : ∀ more, rest ≠ '.' :: more) :
    Double.ofText? (signText negative ++ (whole ++ (markedText '.' fraction ++ rest))) =
      (exponentOfText? rest).map fun e =>
        .ofDecimal negative (digitsValue 0 (whole ++ fraction.getD [])) (e - (fraction.getD []).length) := by
  have filled : whole.isEmpty = false := List.isEmpty_eq_false_iff.mpr some
  unfold Double.ofText?
  rw [takeSign_signText negative some digits]
  dsimp only
  cases fraction with
  | none =>
    rw [show markedText '.' none ++ rest = rest from rfl, spanDigits_append digits ends]
    dsimp only
    split
    · rename_i more
      exact absurd rfl (point more)
    · rw [filled, digitsValue_append, Option.map_eq_bind]
      rfl
  | some ds =>
    have dot : NoDigit (markedText '.' (.some ds) ++ rest) := noDigit_cons rfl
    have front : spanDigits (whole ++ (markedText '.' (.some ds) ++ rest)) = (whole, '.' :: (ds ++ rest)) :=
      spanDigits_append digits dot
    have back : spanDigits (ds ++ rest) = (ds, rest) := spanDigits_append others ends
    simp only [front, back, filled, digitsValue_append, Option.getD_some, Option.map_eq_bind]
    rfl

theorem intOfText?_intText (n : Int) : intOfText? (intText n) = some n := by
  have filled : (natText n.natAbs).isEmpty = false := List.isEmpty_eq_false_iff.mpr Nat.toDigits_ne_nil
  have digits : (natText n.natAbs).all isDigit = true := List.all_eq_true.mpr fun c => isDigit_of_natText
  have read : natOfText? (natText n.natAbs) = some n.natAbs := by
    unfold natOfText?
    rw [filled, digits, digitsValue_natText]
    rfl
  unfold intOfText? intText
  by_cases negative : n < 0
  · have sign : takeSign ('-' :: natText n.natAbs) = (true, natText n.natAbs) := rfl
    have value : -(n.natAbs : Int) = n := by rw [Int.ofNat_natAbs_of_nonpos (Int.le_of_lt negative), Int.neg_neg]
    simp only [if_pos negative, sign, read]
    exact congrArg some value
  · have sign : takeSign (natText n.natAbs) = (false, natText n.natAbs) := by
      obtain ⟨c, more, text⟩ := List.exists_cons_of_ne_nil (List.isEmpty_eq_false_iff.mp filled)
      rw [text, List.all_cons, Bool.and_eq_true] at digits
      rw [text]
      exact takeSign_digit digits.1 more
    simp only [if_neg negative, sign, read]
    exact congrArg some (Int.natAbs_of_nonneg (Int.not_lt.mp negative))

end
end TidyRows
