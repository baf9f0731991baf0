import TidyRows.Proofs.Text.Blanks
import TidyRows.Proofs.Unicode.Casing
import TidyRows.Transform.Apply
namespace TidyRows

namespace Text
variable {mark : Char} {cs front back : List Char}

theorem splitLast_at (absent : mark ∉ back) (front : List Char) :
    splitLast mark (front ++ mark :: back) = some (front, back) := by
  have after : ((front ++ mark :: back).reverse.takeWhile (· != mark)).reverse = back := by
    have others : ∀ c ∈ back.reverse, (c != mark) = true := by
      intro c member
      rw [bne_iff_ne]
      rintro rfl
      exact absent (List.mem_reverse.mp member)
    rw [List.reverse_append, List.reverse_cons, List.append_assoc, List.takeWhile_append_of_pos others]
    simp
  have shorter : back.length < (front ++ mark :: back).length := by
    rw [List.length_append, List.length_cons]
    omega
  have count : (front ++ mark :: back).length - back.length - 1 = front.length := by
    rw [List.length_append, List.length_cons]
    omega
  unfold splitLast
  dsimp only
  rw [after, if_pos shorter, count, List.take_left]

theorem splitLast_eq_some_iff : splitLast mark cs = some (front, back) ↔ cs = front ++ mark :: back ∧ mark ∉ back := by
  constructor
  · intro found
    by_cases member : mark ∈ cs.reverse
    · obtain ⟨after, before, same, absent⟩ := List.eq_append_cons_of_mem member
      have parts : cs = before.reverse ++ mark :: after.reverse := by
        rw [← List.reverse_reverse cs, same]
        simp
      have absent : mark ∉ after.reverse := by simpa using absent
      rw [parts, splitLast_at absent] at found
      cases found
      exact ⟨parts, absent⟩
    · have all : ∀ c ∈ cs.reverse, (c != mark) = true := by
        intro c other
        rw [bne_iff_ne]
        rintro rfl
        exact member other
      have whole : cs.reverse.takeWhile (· != mark) = cs.reverse := List.takeWhile_eq_self_iff.mpr all
      unfold splitLast at found
      simp [whole] at found
  · rintro ⟨rfl, absent⟩
    exact splitLast_at absent front

end Text

namespace Transform
open Unicode
variable {cs user domain name : List Char} {c : Char}

theorem at_mark : Mark '@' := ⟨rfl, rfl, by decide⟩
theorem plus_mark : Mark '+' := ⟨rfl, rfl, by decide⟩

-- The first character of a local part that is kept. There is none when there are only dots before the tag.
def firstKept (user : List Char) : Option Char := (user.takeWhile (· != '+')).find? (· != '.')

theorem takeWhile_lower (user : List Char) :
    (lower user).takeWhile (· != '+') = lower (user.takeWhile (· != '+')) := by
  have untagged {front : List Char} (absent : '+' ∉ front) (rest : List Char) :
      (front ++ rest).takeWhile (· != '+') = front ++ rest.takeWhile (· != '+') := by
    refine List.takeWhile_append_of_pos fun c member => ?_
    rw [bne_iff_ne]
    rintro rfl
    exact absent member
  have small {front : List Char} (absent : '+' ∉ front) : '+' ∉ lower front :=
    fun member => absent (mem_lower_untouched member (by decide))
  by_cases tagged : '+' ∈ user
  · obtain ⟨front, back, rfl, absent⟩ := List.eq_append_cons_of_mem tagged
    rw [plus_mark.lower_append, untagged absent, untagged (small absent)]
    simp
  · have whole := untagged tagged []
    have lowered := untagged (small tagged) []
    rw [List.append_nil, List.takeWhile_nil, List.append_nil] at whole lowered
    rw [whole, lowered]

theorem filter_lowerFrom (before cs : List Char) : match cs.find? (· != '.') with
    | none => (lowerFrom before cs).filter (· != '.') = []
    | some c => ∃ d more, (lowerFrom before cs).filter (· != '.') = d :: more ∧ isBlank d = isBlank c := by
  induction cs generalizing before with
  | nil => rfl
  | cons c rest ih =>
    obtain ⟨here, step, some, kept, each⟩ := lowerFrom_cons before c rest
    rw [step, List.filter_append]
    by_cases dot : c = '.'
    · rw [kept (dot ▸ by decide)]
      subst dot
      exact ih _
    · obtain ⟨d, more, rfl⟩ := List.exists_cons_of_ne_nil some
      obtain ⟨_, blank, own⟩ := each d (List.mem_cons_self ..)
      have other : d ≠ '.' := by
        rintro rfl
        exact dot (own (by decide)).symm
      rw [List.find?_cons_of_pos (by simpa using dot)]
      exact ⟨d, more.filter (· != '.') ++ (lowerFrom (c :: before) rest).filter (· != '.'), by simp [other], blank⟩

theorem plainLocal_lower (user : List Char) :
    (plainLocal (lower user) = [] ↔ firstKept user = none) ∧
      ∀ d more, plainLocal (lower user) = d :: more → ∃ c, firstKept user = some c ∧ isBlank d = isBlank c := by
  have kept := filter_lowerFrom [] (user.takeWhile (· != '+'))
  unfold plainLocal firstKept
  rw [takeWhile_lower]
  unfold lower
  split at kept
  · rename_i none
    rw [none, kept]
    exact ⟨iff_of_true rfl rfl, nofun⟩
  · rename_i c first
    obtain ⟨d, more, text, blank⟩ := kept
    rw [first, text]
    refine ⟨iff_of_false (List.cons_ne_nil d more) nofun, ?_⟩
    rintro e others same
    exact ⟨c, rfl, (List.cons.inj same).1 ▸ blank⟩

theorem plainLocal_plain (user : List Char) : '.' ∉ plainLocal user ∧ '+' ∉ plainLocal user ∧ plainLocal user ⊆ user := by
  unfold plainLocal
  refine ⟨by simp, fun member => ?_, ?_⟩
  · have passed := List.mem_takeWhile_imp (List.mem_of_mem_filter member)
    cases passed
  · exact fun c member => (List.takeWhile_prefix _).subset (List.mem_of_mem_filter member)

theorem plainLocal_eq_self (dotless : '.' ∉ name) (untagged : '+' ∉ name) : plainLocal name = name := by
  have whole : name.takeWhile (· != '+') = name := by
    rw [List.takeWhile_eq_self_iff]
    intro c member
    rw [bne_iff_ne]
    rintro rfl
    exact untagged member
  unfold plainLocal
  rw [whole, List.filter_eq_self]
  intro c member
  rw [bne_iff_ne]
  rintro rfl
  exact dotless member

theorem normalizeEmail_at (parts : Text.splitLast '@' (Text.trim cs) = some (user, domain)) (named : user ≠ []) :
    normalizeEmail cs = plainLocal (lower user) ++ '@' :: lower domain := by
  obtain ⟨whole, absent⟩ := Text.splitLast_eq_some_iff.mp parts
  have absent : '@' ∉ lower domain := fun member => absent (mem_lower_untouched member (by decide))
  have some : (lower user).isEmpty = false := by
    rw [List.isEmpty_eq_false_iff]
    exact mt lower_eq_nil_iff.mp named
  unfold normalizeEmail
  rw [whole, at_mark.lower_append]
  dsimp only
  rw [Text.splitLast_at absent]
  simp only [some, Bool.false_eq_true, if_false]

theorem normalizeEmail_length_le (cs : List Char) : (normalizeEmail cs).length ≤ (lower (Text.trim cs)).length := by
  unfold normalizeEmail
  dsimp only
  split
  · rename_i user domain parts
    obtain ⟨whole, _⟩ := Text.splitLast_eq_some_iff.mp parts
    split
    · exact Nat.le_refl _
    · have less : (plainLocal user).length ≤ user.length := by
        unfold plainLocal
        exact (List.length_filter_le ..).trans (List.takeWhile_prefix _).length_le
      rw [whole, List.length_append, List.length_append]
      exact Nat.add_le_add_right less _
  · exact Nat.le_refl _

section
variable (small : ∀ c ∈ name ++ '@' :: domain, Small c)
include small

theorem normalizeEmail_trimmed (absent : '@' ∉ domain) (trimmed : Text.trim (name ++ '@' :: domain) = name ++ '@' :: domain)
    (dotless : '.' ∉ name) (untagged : '+' ∉ name) : normalizeEmail (name ++ '@' :: domain) = name ++ '@' :: domain := by
  unfold normalizeEmail
  rw [trimmed, lower_of_small small]
  dsimp only
  rw [Text.splitLast_at absent]
  dsimp only
  split
  · rfl
  · rw [plainLocal_eq_self dotless untagged]

theorem trimmed_of_normalizeEmail (still : normalizeEmail (name ++ '@' :: domain) = name ++ '@' :: domain) :
    Text.trim (name ++ '@' :: domain) = name ++ '@' :: domain := by
  have within := Text.trim_within (name ++ '@' :: domain)
  have shorter := normalizeEmail_length_le (name ++ '@' :: domain)
  rw [still, lower_of_small fun c member => small c (within.subset member)] at shorter
  exact within.eq_of_length (Nat.le_antisymm within.length_le shorter)

end

def address (name domain : List Char) : Value := .text (String.ofList (name ++ '@' :: domain))

-- The domain is kept in small letters, and of the local part what is before the tag, without its dots. Nothing is left of a local
-- part that has only dots before its tag, and a blank behind its first dots is taken off the next time.
theorem fieldValue_email_canonical [Libraries] (options : TransformOptions) (row : Row) {s : String} {user domain : List Char}
    (parts : Text.splitLast '@' (Text.trim s.toList) = some (user, domain)) (named : user ≠ []) :
    ∃ name, fieldValue .emailNormalize options row (.text s) = address name (lower domain) ∧ '@' ∉ lower domain ∧
      '.' ∉ name ∧ '+' ∉ name ∧ name = plainLocal (lower user) ∧ (name = [] ↔ firstKept user = none) ∧
      (fieldValue .emailNormalize options row (fieldValue .emailNormalize options row (.text s)) =
        fieldValue .emailNormalize options row (.text s) ↔ ∀ c, firstKept user = some c → isBlank c = false) := by
  obtain ⟨whole, absent⟩ := Text.splitLast_eq_some_iff.mp parts
  obtain ⟨nameless, start⟩ := plainLocal_lower user
  obtain ⟨dotless, untagged, kept⟩ := plainLocal_plain (lower user)
  have once : fieldValue .emailNormalize options row (.text s) = address (plainLocal (lower user)) (lower domain) :=
    congrArg (fun out => Value.text (String.ofList out)) (normalizeEmail_at parts named)
  have absent : '@' ∉ lower domain := fun member => absent (mem_lower_untouched member (by decide))
  have small : ∀ c ∈ plainLocal (lower user) ++ '@' :: lower domain, Small c := by
    intro c member
    rcases List.mem_append.mp member with here | later
    · exact lower_small (kept here)
    · rcases List.mem_cons.mp later with rfl | later
      · decide
      · exact lower_small later
  have last : ∃ front c, plainLocal (lower user) ++ '@' :: lower domain = front ++ [c] ∧ isBlank c = false := by
    rcases List.eq_nil_or_concat domain with rfl | ⟨front, c, rfl⟩
    · exact ⟨_, '@', rfl, by decide⟩
    · rw [List.concat_eq_append] at whole ⊢
      rw [← List.cons_append, ← List.append_assoc] at whole
      have shown := Text.trim_last whole
      obtain ⟨first, d, text, shown⟩ := lower_last front shown
      exact ⟨plainLocal (lower user) ++ '@' :: first, d, by simp [text], shown⟩
  refine ⟨_, once, absent, dotless, untagged, rfl, nameless, ?_⟩
  have again : fieldValue .emailNormalize options row (address (plainLocal (lower user)) (lower domain)) =
      .text (String.ofList (normalizeEmail (plainLocal (lower user) ++ '@' :: lower domain))) := by
    show Value.text (String.ofList (normalizeEmail (String.ofList _).toList)) = _
    rw [String.toList_ofList]
  rw [once, again, address, Value.text.injEq, String.ofList_inj]
  generalize plainLocal (lower user) = name at *
  constructor
  · intro still c first
    have trimmed := trimmed_of_normalizeEmail small still
    cases name with
    | nil =>
      rw [nameless.mp rfl] at first
      cases first
    | cons d more =>
      obtain ⟨e, known, blank⟩ := start d more rfl
      cases known.symm.trans first
      rw [← blank]
      exact Text.trim_first trimmed
  · intro shown
    refine normalizeEmail_trimmed small absent (Text.trim_ends ?_ last) dotless untagged
    cases name with
    | nil => exact ⟨'@', _, rfl, by decide⟩
    | cons d more =>
      obtain ⟨c, known, blank⟩ := start d more rfl
      exact ⟨d, _, rfl, blank.trans (shown c known)⟩

section
open Bare

theorem fieldValue_email_tagged : fieldValue .emailNormalize .none .empty (.text " Ann.Lee+News@Example.COM ") =
    address "annlee".toList "example.com".toList := by
  have parts : Text.splitLast '@' (Text.trim " Ann.Lee+News@Example.COM ".toList) =
      some ("Ann.Lee+News".toList, "Example.COM".toList) := by decide
  obtain ⟨name, once, _, _, _, same, _⟩ := fieldValue_email_canonical .none .empty parts (by decide)
  have plain : plainLocal (lower "Ann.Lee+News".toList) = "annlee".toList := rfl
  have small : lower "Example.COM".toList = "example.com".toList := by decide +kernel
  rw [once, same, plain, small]

-- Two addresses become one without a local part, and a blank that a dot has hidden comes to the front.
theorem fieldValue_email_nameless :
    fieldValue .emailNormalize .none .empty (.text "+news@example.com") = .text "@example.com" ∧
    fieldValue .emailNormalize .none .empty (.text "...@example.com") = .text "@example.com" ∧
    fieldValue .emailNormalize .none .empty (.text ". ann@example.com") = .text " ann@example.com" ∧
    fieldValue .emailNormalize .none .empty (.text " ann@example.com") = .text "ann@example.com" := by
  refine ⟨?_, ?_, ?_, ?_⟩ <;> exact congrArg Value.text (by decide +kernel)

end

end Transform
end TidyRows
