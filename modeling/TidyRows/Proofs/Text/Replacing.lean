import TidyRows.Text.Words
namespace TidyRows.Text
variable {part other cs ds : List Char} {c : Char}

theorem startsWith_iff : startsWith cs part = true ↔ part <+: cs := List.isPrefixOf_iff_prefix
theorem endsWith_iff : endsWith cs part = true ↔ part <:+ cs := List.isSuffixOf_iff_suffix

theorem holdsText_iff : holdsText part cs = true ↔ part <:+: cs := by
  induction cs with
  | nil => simp [holdsText]
  | cons c rest ih => rw [holdsText, Bool.or_eq_true, startsWith_iff, ih, List.infix_cons_iff]

-- From left to right, each occurrence gives way to the other text, and reading goes on behind it.
inductive Replaced (part other : List Char) : List Char → List Char → Prop
  | done : Replaced part other [] []
  | found {cs ds : List Char} (rest : Replaced part other cs ds) : Replaced part other (part ++ cs) (other ++ ds)
  | kept {c : Char} {cs ds : List Char} (away : ¬part <+: c :: cs) (rest : Replaced part other cs ds) :
      Replaced part other (c :: cs) (c :: ds)

theorem replaceFrom_drop (part other : List Char) (skip : Nat) (cs : List Char) :
    replaceFrom part other skip cs = replaceAll part other (cs.drop skip) := by
  induction cs generalizing skip with
  | nil => rw [List.drop_nil]; rfl
  | cons c rest ih =>
    cases skip with
    | zero => rfl
    | succ skip => exact ih skip

theorem replaceAll_cons (part other : List Char) (c : Char) (rest : List Char) : replaceAll part other (c :: rest) =
    if startsWith (c :: rest) part then other ++ replaceAll part other (rest.drop (part.length - 1))
    else c :: replaceAll part other rest := by
  rw [← replaceFrom_drop]
  rfl

theorem replaceAll_replaced (filled : part ≠ []) (other cs : List Char) :
    Replaced part other cs (replaceAll part other cs) := by
  induction size : cs.length using Nat.strongRecOn generalizing cs with
  | ind size ih =>
    subst size
    cases cs with
    | nil => exact .done
    | cons c rest =>
      rw [replaceAll_cons]
      split
      · rename_i start
        obtain ⟨after, same⟩ := startsWith_iff.mp start
        obtain ⟨d, more, rfl⟩ := List.exists_cons_of_ne_nil filled
        rw [List.cons_append] at same
        obtain ⟨rfl, rfl⟩ := List.cons.inj same
        rw [List.length_cons, Nat.add_sub_cancel, List.drop_left]
        have shorter : after.length < (d :: (more ++ after)).length := by
          rw [List.length_cons, List.length_append]
          omega
        exact .found (ih after.length shorter after rfl)
      · rename_i away
        exact .kept (fun start => away (startsWith_iff.mpr start)) (ih rest.length (by simp) rest rfl)

namespace Replaced

theorem parts (replaced : Replaced part other cs ds) : (cs = [] ∧ ds = []) ∨
    (∃ cs' ds', cs = part ++ cs' ∧ ds = other ++ ds' ∧ Replaced part other cs' ds') ∨
    ∃ c cs' ds', cs = c :: cs' ∧ ds = c :: ds' ∧ ¬part <+: cs ∧ Replaced part other cs' ds' := by
  cases replaced with
  | done => exact .inl ⟨rfl, rfl⟩
  | found rest => exact .inr (.inl ⟨_, _, rfl, rfl, rest⟩)
  | kept away rest => exact .inr (.inr ⟨_, _, _, rfl, rfl, away, rest⟩)

-- What is in the result without a character of the new text was there before.
theorem before {word : List Char} (fresh : other ≠ []) (away : ∀ c ∈ word, other.head? ≠ some c)
    (replaced : Replaced part other cs (word ++ ds)) : ∃ rest, cs = word ++ rest ∧ Replaced part other rest ds := by
  induction word generalizing cs with
  | nil => exact ⟨cs, rfl, replaced⟩
  | cons c more ih =>
    rcases replaced.parts with ⟨_, same⟩ | ⟨cs', ds', _, same, _⟩ | ⟨d, cs', ds', rfl, same, _, rest⟩
    · cases same
    · obtain ⟨d, later, rfl⟩ := List.exists_cons_of_ne_nil fresh
      obtain ⟨rfl, -⟩ := List.cons.inj same
      exact absurd rfl (away _ (List.mem_cons_self ..))
    · obtain ⟨rfl, rfl⟩ := List.cons.inj same
      obtain ⟨tail, rfl, behind⟩ := ih (fun c member => away c (List.mem_cons_of_mem _ member)) rest
      exact ⟨tail, rfl, behind⟩

-- What has no first character of the old text stays.
theorem after {word rest : List Char} (filled : part ≠ []) (away : ∀ c ∈ word, part.head? ≠ some c)
    (replaced : Replaced part other (word ++ rest) ds) : ∃ later, ds = word ++ later ∧ Replaced part other rest later := by
  induction word generalizing ds with
  | nil => exact ⟨ds, rfl, replaced⟩
  | cons c more ih =>
    rcases replaced.parts with ⟨same, _⟩ | ⟨cs', ds', same, _, _⟩ | ⟨d, cs', ds', same, rfl, _, behind⟩
    · cases same
    · obtain ⟨d, later, rfl⟩ := List.exists_cons_of_ne_nil filled
      obtain ⟨rfl, -⟩ := List.cons.inj same
      exact absurd rfl (away _ (List.mem_cons_self ..))
    · obtain ⟨rfl, rfl⟩ := List.cons.inj same
      obtain ⟨later, rfl, rest⟩ := ih (fun c member => away c (List.mem_cons_of_mem _ member)) behind
      exact ⟨later, rfl, rest⟩

theorem length_le (short : other.length ≤ part.length) (replaced : Replaced part other cs ds) : ds.length ≤ cs.length := by
  induction replaced with
  | done => exact Nat.le_refl 0
  | found rest ih => rw [List.length_append, List.length_append]; omega
  | kept away rest ih => exact Nat.succ_le_succ ih

theorem length_lt (short : other.length < part.length) (replaced : Replaced part other cs ds) (held : part <:+: cs) :
    ds.length < cs.length := by
  induction replaced with
  | done => simp_all
  | found rest ih =>
    have := rest.length_le (Nat.le_of_lt short)
    rw [List.length_append, List.length_append]
    omega
  | kept away rest ih => exact Nat.succ_lt_succ (ih ((List.infix_cons_iff.mp held).resolve_left away))

end Replaced
end TidyRows.Text
