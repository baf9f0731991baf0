import TidyRows.Proofs.Dedupe.Pass
namespace TidyRows.Dedupe

theorem ordered_zipIdx (rows : List Row) (start : Nat) : Ordered (rows.zipIdx start) := by
  have numbers : ((rows.zipIdx start).map Prod.snd).Pairwise (· < ·) := by
    rw [List.zipIdx_map_snd]
    exact List.pairwise_lt_range'
  exact List.pairwise_map.mp numbers

theorem mem_zipIdx_iff {rows : List Row} {n : Numbered} : n ∈ rows.zipIdx ↔ rows[n.2]? = some n.1 := by
  rw [List.mem_zipIdx_iff_getElem?]

def keySignature (keys : List String) (row : Row) : Option String := signature? row keys signatureDelimiter

theorem sameSignature_some {s other : String} : sameSignature s other = some () ↔ s = other := by
  unfold sameSignature
  split <;> simp [*]

theorem sameSignature_self (s : String) : sameSignature s s ≠ none := by
  unfold sameSignature
  rw [if_pos rfl]
  exact nofun

section
variable {keys : List String} {rows : List Row} {n k : Numbered} {s : String}

theorem exact_rows (keys : List String) (rows : List Row) : (exactPhase keys rows.zipIdx).map (·.row) = rows.zipIdx :=
  pass_rows [] rows.zipIdx

theorem exact_survivor (stays : n ∈ survivors (exactPhase keys rows.zipIdx)) : n ∈ rows.zipIdx := by
  have member := (survivors_sublist _).subset stays
  rwa [exact_rows] at member

theorem first_with (known : n ∈ rows.zipIdx) (has : keySignature keys n.1 = some s) :
    ∃ k ∈ rows.zipIdx, keySignature keys k.1 = some s ∧
      ∀ l ∈ rows.zipIdx, keySignature keys l.1 = some s → k.2 ≤ l.2 := by
  have some : (rows.zipIdx.find? fun k => keySignature keys k.1 == some s).isSome :=
    List.find?_isSome.mpr ⟨n, known, by simp [has]⟩
  obtain ⟨k, found⟩ := Option.isSome_iff_exists.mp some
  obtain ⟨same, before, after, split, unlike⟩ := List.find?_eq_some_iff_append.mp found
  refine ⟨k, List.mem_of_find?_eq_some found, beq_iff_eq.mp same, ?_⟩
  intro l member other
  have ordered := ordered_zipIdx rows 0
  unfold Ordered at ordered
  rw [split] at member ordered
  obtain ⟨_, tail, _⟩ := List.pairwise_append.mp ordered
  rcases List.mem_append.mp member with early | late
  · have := unlike l early
    simp [other] at this
  · rcases List.mem_cons.mp late with rfl | late
    · exact Nat.le_refl _
    · exact Nat.le_of_lt (List.rel_of_pairwise_cons tail late)

theorem first_kept (known : n ∈ rows.zipIdx) (has : keySignature keys n.1 = some s)
    (first : ∀ k ∈ rows.zipIdx, keySignature keys k.1 = some s → n.2 ≤ k.2) :
    n ∈ survivors (exactPhase keys rows.zipIdx) := by
  have member := known
  rw [← exact_rows keys rows] at member
  obtain ⟨⟨_, repeats⟩, inside, rfl⟩ := List.mem_map.mp member
  cases repeats with
  | none => exact mem_survivors.mpr inside
  | some found =>
    have repeated := pass_repeats (ordered_zipIdx rows 0) inside
    obtain ⟨m, other, hasM, hasOther, alike⟩ := repeated.alike
    cases has.symm.trans hasM
    cases sameSignature_some.mp alike
    exact absurd repeated.earlier (Nat.not_lt_of_le (first _ (exact_survivor repeated.stays) hasOther))

theorem kept_first (stays : n ∈ survivors (exactPhase keys rows.zipIdx)) (has : keySignature keys n.1 = some s)
    (known : k ∈ rows.zipIdx) (same : keySignature keys k.1 = some s) : n.2 ≤ k.2 := by
  obtain ⟨f, inside, hasF, first⟩ := first_with known same
  refine Nat.le_trans (Nat.not_lt.mp fun less => ?_) (first k known same)
  exact sameSignature_self s (pass_apart (ordered_zipIdx rows 0) stays (first_kept inside hasF first) less has hasF)

structure ExactRepeat (keys : List String) (rows : List Row) (n k : Numbered) (s : String) : Prop where
  stays : k ∈ survivors (exactPhase keys rows.zipIdx)
  earlier : k.2 < n.2
  signature : keySignature keys n.1 = some s
  same : keySignature keys k.1 = some s
  first : ∀ l ∈ rows.zipIdx, keySignature keys l.1 = some s → k.2 ≤ l.2

theorem exact_repeats {u : Unit} (dropped : ⟨n, some (k, u)⟩ ∈ exactPhase keys rows.zipIdx) :
    ∃ s, ExactRepeat keys rows n k s := by
  have repeated := pass_repeats (ordered_zipIdx rows 0) dropped
  obtain ⟨s, other, has, hasOther, alike⟩ := repeated.alike
  cases sameSignature_some.mp alike
  exact ⟨s, repeated.stays, repeated.earlier, has, hasOther, fun l known same => kept_first repeated.stays hasOther known same⟩

theorem exact_drops_iff (known : n ∈ rows.zipIdx) :
    (∃ found, ⟨n, some found⟩ ∈ exactPhase keys rows.zipIdx) ↔
      ∃ k ∈ rows.zipIdx, k.2 < n.2 ∧ ∃ s, keySignature keys n.1 = some s ∧ keySignature keys k.1 = some s := by
  constructor
  · rintro ⟨⟨k, _⟩, dropped⟩
    obtain ⟨s, repeated⟩ := exact_repeats dropped
    exact ⟨k, exact_survivor repeated.stays, repeated.earlier, s, repeated.signature, repeated.same⟩
  · rintro ⟨k, knownK, less, s, has, same⟩
    have member := known
    rw [← exact_rows keys rows] at member
    obtain ⟨⟨_, repeats⟩, inside, rfl⟩ := List.mem_map.mp member
    cases repeats with
    | none => exact absurd less (Nat.not_lt_of_le (kept_first (mem_survivors.mpr inside) has knownK same))
    | some found => exact ⟨found, inside⟩

end

end TidyRows.Dedupe
