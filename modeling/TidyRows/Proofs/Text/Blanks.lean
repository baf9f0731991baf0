import Mathlib.Data.List.DropRight
import TidyRows.Number.Literal
import TidyRows.Text.Words
namespace TidyRows.Text
open Unicode (isBlank)
variable {c : Char} {cs : List Char}

theorem trimEnd_eq_nil_iff : trimEnd cs = [] ↔ ∀ c ∈ cs, isBlank c = true := by
  unfold trimEnd dropEndWhile
  rw [List.reverse_eq_nil_iff, List.dropWhile_eq_nil_iff]
  simp

theorem trim_eq_nil_iff : trim cs = [] ↔ allBlank cs = true := by
  unfold trim allBlank
  rw [trimEnd_eq_nil_iff, List.all_eq_true]
  induction cs with
  | nil => simp
  | cons c rest ih =>
    by_cases blank : isBlank c = true
    · simpa [blank] using ih
    · simp [blank]

theorem trimEnd_cons (shown : isBlank c = false) (cs : List Char) : trimEnd (c :: cs) = c :: trimEnd cs := by
  unfold trimEnd dropEndWhile
  rw [List.reverse_cons, List.dropWhile_append]
  split
  · rename_i blank
    rw [List.isEmpty_iff.mp blank]
    simp [shown]
  · simp

theorem trimEnd_trimEnd (cs : List Char) : trimEnd (trimEnd cs) = trimEnd cs := by
  unfold trimEnd dropEndWhile
  rw [List.reverse_reverse, List.dropWhile_idempotent]

theorem trim_trim (cs : List Char) : trim (trim cs) = trim cs := by
  unfold trim
  induction cs with
  | nil => rfl
  | cons c rest ih =>
    cases blank : isBlank c with
    | true => simpa [blank] using ih
    | false => simp [blank, trimEnd_cons blank, trimEnd_trimEnd]

theorem trim_within (cs : List Char) : trim cs <:+: cs := by
  unfold trim trimEnd dropEndWhile
  exact (List.rdropWhile_prefix ..).isInfix.trans (List.dropWhile_suffix _).isInfix

theorem trim_first {more : List Char} (start : trim cs = c :: more) : isBlank c = false := by
  unfold trim at start
  cases rest : cs.dropWhile isBlank with
  | nil =>
    rw [rest] at start
    cases start
  | cons d others =>
    have shown : isBlank d = false := by
      have := List.head_dropWhile_not isBlank (l := cs) (by simp [rest])
      simpa [rest] using this
    rw [rest, trimEnd_cons shown] at start
    rw [← (List.cons.inj start).1]
    exact shown

theorem trim_last {front : List Char} (final : trim cs = front ++ [c]) : isBlank c = false := by
  have some : (cs.dropWhile isBlank).rdropWhile isBlank ≠ [] := by
    show trim cs ≠ []
    simp [final]
  have last := List.rdropWhile_last_not isBlank (cs.dropWhile isBlank) some
  have same : ((cs.dropWhile isBlank).rdropWhile isBlank).getLast some = c := by
    simp only [show (cs.dropWhile isBlank).rdropWhile isBlank = front ++ [c] from final, List.getLast_append_singleton]
  rw [same] at last
  simpa using last

theorem trim_ends (first : ∃ c more, cs = c :: more ∧ isBlank c = false)
    (last : ∃ front c, cs = front ++ [c] ∧ isBlank c = false) : trim cs = cs := by
  obtain ⟨c, more, start, visible⟩ := first
  obtain ⟨front, d, final, shown⟩ := last
  have dropped : cs.dropWhile isBlank = cs := by
    rw [start, List.dropWhile_cons_of_neg (by simp [visible])]
  unfold trim trimEnd dropEndWhile
  rw [dropped, final, List.reverse_append, List.reverse_singleton, List.singleton_append,
    List.dropWhile_cons_of_neg (by simp [shown]), List.reverse_cons, List.reverse_reverse]

theorem trim_visible (shown : ∀ c ∈ cs, isBlank c = false) : trim cs = cs := by
  cases cs with
  | nil => rfl
  | cons c more =>
    have final := (List.dropLast_append_getLast (List.cons_ne_nil c more)).symm
    have last := shown _ (List.getLast_mem (List.cons_ne_nil c more))
    exact trim_ends ⟨c, more, rfl, shown c (List.mem_cons_self ..)⟩ ⟨_, _, final, last⟩

theorem digit_visible (digit : isDigit c = true) : isBlank c = false := by
  simp only [isDigit, Bool.and_eq_true, decide_eq_true_eq] at digit
  have low : 48 ≤ c.toNat := digit.1
  have high : c.toNat ≤ 57 := digit.2
  simp only [isBlank, Bool.or_eq_false_iff, Bool.and_eq_false_iff, beq_eq_false_iff_ne, decide_eq_false_iff_not]
  omega

end TidyRows.Text
